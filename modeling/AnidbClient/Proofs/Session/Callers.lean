import AnidbClient.Proofs.Session.Provenance
import AnidbClient.Proofs.Turnstile.Acts

/-!
# What becomes of a caller

`Fate` lists what an event can make of one caller, seen from outside: nothing that matters, a
result, or a wait for the reply to its command.  `fate_step` says that the list is complete.

`SentBy` ties a caller to its command.  A caller sends one command at most (`SentBy.unique`), and
whoever waits for a reply has sent one, under the tag that it waits for (`exists_sentBy`).
-/

namespace AnidbClient

namespace Session

open Turnstile Handler

/-! ## Fates -/

section Fate

variable (c : Client) (l : Limits) (w : Session) (id : Caller)

/-- How far the caller has come after an event. -/
inductive Fate :
    Event Call → Option (Stage Call Pending (Except Error Success)) → Prop where
  | same (e : Event Call) : Fate e (w.stage id)
  /-- It is elsewhere now, but neither inside nor done. -/
  | aside {e : Event Call} {s : Stage Call Pending (Except Error Success)}
      (hinside : ∀ p, s ≠ .inside p) (hleft : ∀ r, s ≠ .left (.result r)) : Fate e (some s)
  /-- It is turned away when it arrives. -/
  | turnedAway {call : Call} {h : Handler} {r : Except Error Success} (hnew : w.stage id = none)
      (harrive : arrive c w.now call w.state = (h, some r)) :
      Fate (.call id (.job call)) (some (.left (.result r)))
  /-- It is turned away when it is let in. -/
  | refused {call : Call} {pace : Pace} {e : Error} {h : Handler}
      (hin : GoesIn (service c) l w id call pace) (hrefuse : Refuses c w.now w.state call e h) :
      Fate (.poll id) (some (.left (.result (.error e))))
  /-- It has sent its command, and waits. -/
  | waits {call : Call} {pace : Pace} {key held : Option Text} {h' h'' : Handler} {t : Text}
      (hin : GoesIn (service c) l w id call pace)
      (hadmits : Admits c w.now w.state call key held h')
      (hissue : h'.issue w.now (call.request c) key = (h'', .ok t)) :
      Fate (.poll id) (some (.inside ⟨call, held, t, w.now + c.requestTimeout⟩))
  | decided {call : Call} {held : Option Text} {h : Handler} {answered : Except Error Reply}
      (hdecides : Decides c l w id call held h answered) :
      Fate (.poll id) (some (.left (.result (conclude c w.now call held h answered).2)))

variable {c l w id}

/-- The caller of an event is the only one that it concerns. -/
private theorem Fate.of_setStage {e : Event Call} {v : Session} (hstage : v.stage = w.stage)
    {k : Caller} {s : Stage Call Pending (Except Error Success)}
    (hk : id = k → Fate c l w id e (some s)) : Fate c l w id e ((v.setStage k s).stage id) := by
  rw [stage_setStage]
  split
  · rename_i heq
    exact hk heq
  · rw [hstage]
    exact .same e

/-- A caller that was let in is refused, or waits, or its call is decided. -/
private theorem fate_enter {call : Call} {pace : Pace} (hin : GoesIn (service c) l w id call pace) :
    Fate c l w id (.poll id)
      (({ w with pace := pace }.settle id ((service c).enter w.now call w.state)).stage id) := by
  have henter : Enters c w.now w.state call ((service c).enter w.now call w.state) :=
    enters_enter c w.now w.state call
  generalize (service c).enter w.now call w.state = turn at henter
  cases henter with
  | refused hrefuse =>
    rw [settle_leaving, stage_setStage_self]
    exact .refused hin hrefuse
  | unsent hadmits hissue =>
    rw [settle_leaving, stage_setStage_self]
    exact .decided (.unsent hin hadmits hissue)
  | sent hadmits hissue hheed =>
    cases hheed with
    | waits hhear =>
      rw [settle_staying, stage_setStage_self]
      exact .waits hin hadmits hissue
    | ends hhear =>
      rw [settle_leaving, stage_setStage_self]
      exact .decided (.atOnce hin hadmits hissue hhear)

/-- A caller that looks again goes on waiting, or its call is decided. -/
private theorem fate_resume {p : Pending} (hstage : w.stage id = some (.inside p)) :
    Fate c l w id (.poll id)
      ((w.settle id ((service c).resume w.now p w.state)).stage id) := by
  have hheed : Heeds c w.now w.state p ((service c).resume w.now p w.state) :=
    heeds_resume c w.now w.state p
  generalize (service c).resume w.now p w.state = turn at hheed
  cases hheed with
  | waits hhear =>
    rw [settle_staying, stage_setStage_self, ← hstage]
    exact .same _
  | ends hhear =>
    rw [settle_leaving, stage_setStage_self]
    exact .decided (.waiting hstage hhear)

variable (c l w id)

/-- There are no other fates. -/
theorem fate_step (e : Event Call) : Fate c l w id e ((w.step (service c) l e).stage id) := by
  have hm := move_step (service c) l w e
  generalize w.step (service c) l e = w' at hm
  cases hm with
  | rest => exact .same e
  | tick => exact .same _
  | ask => exact .of_setStage rfl fun _ => .aside (by simp) (by simp)
  | refuse hnew harrive =>
    refine .of_setStage rfl ?_
    rintro rfl
    exact .turnedAway hnew harrive
  | queue => exact .of_setStage rfl fun _ => .aside (by simp) (by simp)
  | tell => exact .of_setStage rfl fun _ => .aside (by simp) (by simp)
  | pace => exact .of_setStage rfl fun _ => .aside (by simp) (by simp)
  | @enter k call pace hin =>
    by_cases hid : id = k
    · rw [hid]
      exact fate_enter hin
    · rw [stage_settle_of_ne _ _ _ hid]
      exact .same _
  | @resume k p hstage =>
    by_cases hid : id = k
    · rw [hid]
      exact fate_resume hstage
    · rw [stage_settle_of_ne _ _ _ hid]
      exact .same _
  | dropWaiting => exact .of_setStage rfl fun _ => .aside (by simp) (by simp)
  | dropPacing => exact .of_setStage rfl fun _ => .aside (by simp) (by simp)
  | dropInside => exact .of_setStage rfl fun _ => .aside (by simp) (by simp)

end Fate

end Session

/-! ## What is sent stays sent -/

namespace Handler

variable {c : Client} {now : Instant} {h h' h'' : Handler}

theorem SameWire.lines_eq (hsame : SameWire h h') : h'.lines = h.lines := by
  unfold lines
  rw [hsame.network]

theorem keeps_sent (c : Client) (sent : List Text) :
    (service c).Keeps fun _ _ h => sent <+: h.lines where
  later _ hsent := hsent
  arrive {now _ h} call hsent := by
    show sent <+: (arrive c now call h).1.lines
    rw [(sameWire_arrive c now h call).lines_eq]
    exact hsent
  enter {now h} call hsent := by
    show sent <+: (enter c now call h).1.lines
    unfold lines at hsent ⊢
    rcases (enters_enter c now h call).sent_cases with hsame | ⟨_, _, _, _, hgrown⟩
    · rw [hsame]
      exact hsent
    · rw [hgrown, List.map_append]
      exact hsent.trans (List.prefix_append _ _)
  resume {now p h} hsent := by
    show sent <+: (resume c now p h).1.lines
    unfold lines at hsent ⊢
    rw [(heeds_resume c now h p).sent_eq]
    exact hsent
  abandon {_ p h} hsent := by
    show sent <+: (h.abandon p).lines
    rw [(sameWire_abandon h p).lines_eq]
    exact hsent

/-- A command that can be packed is posted under the next tag. -/
theorem issue_of_pack (now : Instant) {r : Request} {key : Option Text}
    {bytes : Text.Utf8.Bytes} (hpack : Wire.pack (r.line key (some h.tag)) = .ok bytes) :
    h.issue now r key =
      ({ h with
          nextTag := h.nextTag + 1
          network := (h.network.post now (r.line key (some h.tag)) h.tag).1 },
        (h.network.post now (r.line key (some h.tag)) h.tag).2.map fun () => h.tag) := by
  unfold tag tagOf at hpack ⊢
  simp only [issue, hpack]

/-- So it is the last one that was sent. -/
theorem lines_issue_of_pack (now : Instant) {r : Request} {key : Option Text}
    {bytes : Text.Utf8.Bytes} (hpack : Wire.pack (r.line key (some h.tag)) = .ok bytes) :
    (h.issue now r key).1.lines = h.lines ++ [r.line key (some h.tag)] := by
  unfold lines
  rw [issue_of_pack now hpack, sent_post, List.map_append]
  rfl

/-- A command that cannot be packed costs a tag, and is not sent. -/
theorem issue_of_pack_error (now : Instant) {r : Request} {key : Option Text} {e : Error}
    (hpack : Wire.pack (r.line key (some h.tag)) = .error e) :
    h.issue now r key = ({ h with nextTag := h.nextTag + 1 }, .error e) := by
  unfold tag tagOf at hpack
  simp only [issue, hpack]

/-- A command that was sent is the last one. -/
theorem lines_issue_of_ok {r : Request} {key : Option Text} {t : Text}
    (hissue : h.issue now r key = (h', .ok t)) :
    h'.lines = h.lines ++ [r.line key (some t)] := by
  obtain rfl : t = h.tag := issue_snd_of_ok now h r key (congrArg Prod.snd hissue)
  cases hpack : Wire.pack (r.line key (some h.tag)) with
  | ok bytes =>
    have hlines := lines_issue_of_pack now hpack
    rw [hissue] at hlines
    exact hlines
  | error e =>
    rw [issue_of_pack_error now hpack] at hissue
    cases hissue

theorem splitTag_of_issue {r : Request} {key : Option Text} {t : Text}
    (hissue : h.issue now r key = (h', .ok t)) :
    (CommandLine.splitTag (r.line key (some t))).2 = some t := by
  obtain rfl : t = h.tag := issue_snd_of_ok now h r key (congrArg Prod.snd hissue)
  exact splitTag_tagOf r key h.nextTag

/-- Whoever is admitted sends what it issues, and nothing else. -/
theorem Admits.lines_eq {call : Call} {key held : Option Text}
    (hadmits : Admits c now h call key held h') :
    (enter c now call h).1.lines = (h'.issue now (call.request c) key).1.lines := by
  rw [hadmits.enter_eq]
  unfold engage
  split
  · rename_i issued e hissue
    rw [hissue]
    exact (sameWire_conclude c now issued call held (.error e)).lines_eq
  · rename_i issued t hissue
    rw [hissue]
    exact congrArg (List.map Prod.snd) (heeds_resume c now issued _).sent_eq

/-- Whoever is admitted and can send its command has sent it once it has been let in. -/
theorem Admits.lines_enter {call : Call} {key held : Option Text} {t : Text}
    (hadmits : Admits c now h call key held h')
    (hissue : h'.issue now (call.request c) key = (h'', .ok t)) :
    (enter c now call h).1.lines = h.lines ++ [(call.request c).line key (some t)] := by
  rw [hadmits.lines_eq, hissue, lines_issue_of_ok hissue, hadmits.sameWire.lines_eq]

end Handler

/-! ## Who sent what -/

namespace Session

open Turnstile Handler

variable (c : Client) (l : Limits) (server : Server)

/-- The command lines that were sent in a run. -/
def lines (events : List (Event Call)) : List Text :=
  (after c l server events).state.lines

/-- When the caller was let in with this call, its command was sent, as the one with this
number. -/
def SentBy (events : List (Event Call)) (id : Caller) (call : Call) (i : Nat) : Prop :=
  ∃ before since pace key, events = before ++ .poll id :: since ∧
    GoesIn (service c) l (after c l server before) id call pace ∧
    lines c l server (before ++ [.poll id]) = lines c l server before ++
      [(call.request c).line key (some (after c l server before).state.tag)] ∧
    (lines c l server before).length = i

theorem lines_append (events later : List (Event Call)) :
    ∃ more, lines c l server (events ++ later) = lines c l server events ++ more := by
  have hprefix := (keeps_sent c (lines c l server events)).run (l := l)
    (orderly_after c l server events) (List.prefix_refl _) later
  rw [← after_append] at hprefix
  obtain ⟨more, heq⟩ := hprefix
  exact ⟨more, heq.symm⟩

/-- An event sends nothing, or lets a caller in and sends its command at this moment. -/
theorem sent_step (w : Session) (e : Event Call) :
    (w.step (service c) l e).state.network.sent = w.state.network.sent ∨
      ∃ id call pace key held ready, e = .poll id ∧ GoesIn (service c) l w id call pace ∧
        Admits c w.now w.state call key held ready ∧
        (w.step (service c) l e).state.network.sent = w.state.network.sent ++
          [(w.now, (call.request c).line key (some w.state.tag))] := by
  rw [state_step]
  cases hact : w.act? (service c) l e with
  | none => exact .inl rfl
  | some a =>
    cases act?_eq_some_iff.1 hact with
    | @arrive id call =>
      exact .inl (congrArg Network.sent (sameWire_arrive c w.now w.state call).network)
    | @enter id call pace hin =>
      rcases (enters_enter c w.now w.state call).sent_cases with
        hsame | ⟨key, held, ready, hadmits, hgrown⟩
      · exact .inl hsame
      · exact .inr ⟨id, call, pace, key, held, ready, rfl, hin, hadmits, hgrown⟩
    | @resume id p => exact .inl (heeds_resume c w.now w.state p).sent_eq
    | @abandon id p => exact .inl (congrArg Network.sent (sameWire_abandon w.state p).network)

/-- What an event sends is one line more. -/
theorem lines_step (w : Session) (e : Event Call) :
    (w.step (service c) l e).state.lines = w.state.lines ∨
      ∃ id call pace key held ready, e = .poll id ∧ GoesIn (service c) l w id call pace ∧
        Admits c w.now w.state call key held ready ∧
        (w.step (service c) l e).state.lines =
          w.state.lines ++ [(call.request c).line key (some w.state.tag)] := by
  unfold Handler.lines
  rcases sent_step c l w e with hsame | ⟨id, call, pace, key, held, ready, he, hin, hadmits, hgrown⟩
  · exact .inl (by rw [hsame])
  · refine .inr ⟨id, call, pace, key, held, ready, he, hin, hadmits, ?_⟩
    rw [hgrown, List.map_append]
    rfl

variable {c l server} {events : List (Event Call)} {id : Caller} {call : Call} {i : Nat}

theorem SentBy.append (hsent : SentBy c l server events id call i) (later : List (Event Call)) :
    SentBy c l server (events ++ later) id call i := by
  obtain ⟨before, since, pace, key, rfl, hin, hgrown, hi⟩ := hsent
  exact ⟨before, since ++ later, pace, key, by simp, hin, hgrown, hi⟩

theorem SentBy.lt_length (hsent : SentBy c l server events id call i) :
    i < (lines c l server events).length := by
  obtain ⟨before, since, pace, key, rfl, _, hgrown, rfl⟩ := hsent
  obtain ⟨more, hlines⟩ := lines_append c l server (before ++ [.poll id]) since
  rw [List.append_assoc, List.singleton_append, hgrown] at hlines
  rw [hlines]
  simp only [List.length_append, List.length_singleton]
  omega

/-- A command was sent before the last event, or by it. -/
theorem SentBy.of_concat {e : Event Call} (hsent : SentBy c l server (events ++ [e]) id call i) :
    SentBy c l server events id call i ∨
      ∃ pace line, e = .poll id ∧ GoesIn (service c) l (after c l server events) id call pace ∧
        lines c l server (events ++ [e]) = lines c l server events ++ [line] ∧
        (lines c l server events).length = i := by
  obtain ⟨before, since, pace, key, heq, hin, hgrown, hi⟩ := hsent
  rcases List.eq_nil_or_concat since with rfl | ⟨since, last, rfl⟩
  · obtain ⟨rfl, hlast⟩ := List.append_inj' heq rfl
    obtain rfl := List.singleton_inj.1 hlast
    exact .inr ⟨pace, _, rfl, hin, hgrown, hi⟩
  · have hsplit : events ++ [e] = (before ++ .poll id :: since) ++ [last] := by
      simpa using heq
    obtain ⟨rfl, -⟩ := List.append_inj' hsplit rfl
    exact .inl ⟨before, since, pace, key, rfl, hin, hgrown, hi⟩

theorem not_sentBy_nil : ¬ SentBy c l server [] id call i := by
  rintro ⟨before, since, _, _, heq, _⟩
  simp at heq

/-- Whoever has sent its command has been let in. -/
theorem SentBy.not_isAhead (hsent : SentBy c l server events id call i) :
    ¬ (after c l server events).IsAhead id := by
  induction events using List.reverseRecOn with
  | nil => exact absurd hsent not_sentBy_nil
  | append_singleton events e ih =>
    rw [after_concat]
    rcases hsent.of_concat with hearlier | ⟨pace, line, rfl, hin, _, _⟩
    · exact fun hahead => ih hearlier ((move_step (service c) l _ e).isAhead hahead)
    · show ¬ ((after c l server events).poll (service c) l id).IsAhead id
      rw [hin.poll_eq]
      exact not_isAhead_settle _

/-- A caller sends one command at most. -/
theorem SentBy.unique {call' : Call} {j : Nat} (hsent : SentBy c l server events id call i)
    (hsent' : SentBy c l server events id call' j) : call = call' ∧ i = j := by
  induction events using List.reverseRecOn with
  | nil => exact absurd hsent not_sentBy_nil
  | append_singleton events e ih =>
    rcases hsent.of_concat with hearlier | ⟨_, _, _, hin, _, hi⟩
    · rcases hsent'.of_concat with hearlier' | ⟨_, _, _, hin', _, _⟩
      · exact ih hearlier hearlier'
      · exact absurd hin'.isAhead hearlier.not_isAhead
    · rcases hsent'.of_concat with hearlier' | ⟨_, _, _, hin', _, hj⟩
      · exact absurd hin.isAhead hearlier'.not_isAhead
      · exact ⟨hin.job_eq hin', hi.symm.trans hj⟩

/-- Whoever can send its command has sent it once it has been let in. -/
theorem sentBy_of_issue {pace : Pace} {key held : Option Text} {h h' : Handler} {t : Text}
    (hin : GoesIn (service c) l (after c l server events) id call pace)
    (hadmits : Admits c (after c l server events).now (after c l server events).state call key
      held h)
    (hissue : h.issue (after c l server events).now (call.request c) key = (h', .ok t)) :
    SentBy c l server (events ++ [.poll id]) id call (lines c l server events).length ∧
      lines c l server (events ++ [.poll id]) =
        lines c l server events ++ [(call.request c).line key (some t)] := by
  have hgrown : lines c l server (events ++ [.poll id]) =
      lines c l server events ++ [(call.request c).line key (some t)] := by
    unfold lines
    rw [after_concat]
    show ((after c l server events).poll (service c) l id).state.lines = _
    rw [hin.poll_eq, state_settle]
    exact hadmits.lines_enter hissue
  have htag : t = (after c l server events).state.tag :=
    (issue_snd_of_ok _ _ _ _ (congrArg Prod.snd hissue)).trans hadmits.sameWire.tag_eq
  exact ⟨⟨events, [], pace, key, rfl, hin, htag ▸ hgrown, rfl⟩, hgrown⟩

/-- Whoever is inside has sent its command, under the tag that it waits for. -/
theorem exists_sentBy {p : Pending}
    (hstage : (after c l server events).stage id = some (.inside p)) :
    ∃ i line, SentBy c l server events id p.call i ∧ (lines c l server events)[i]? = some line ∧
      (CommandLine.splitTag line).2 = some p.tag := by
  -- From the last event back: only two fates leave a caller inside, to wait on or to begin to.
  induction events using List.reverseRecOn with
  | nil => cases hstage
  | append_singleton events e ih =>
    have hfate := fate_step c l (after c l server events) id e
    rw [← after_concat] at hfate
    generalize (after c l server (events ++ [e])).stage id = s at hstage hfate
    cases hfate with
    | same =>
      obtain ⟨i, line, hsent, hline, htag⟩ := ih hstage
      obtain ⟨more, hlines⟩ := lines_append c l server events [e]
      have hi : i < (lines c l server events).length := (List.getElem?_eq_some_iff.1 hline).1
      refine ⟨i, line, hsent.append [e], ?_, htag⟩
      rw [hlines, List.getElem?_append_left hi]
      exact hline
    | aside hinside => exact absurd (Option.some.inj hstage) (hinside p)
    | turnedAway => cases hstage
    | refused => cases hstage
    | waits hin hadmits hissue =>
      cases hstage
      obtain ⟨hsent, hgrown⟩ := sentBy_of_issue hin hadmits hissue
      refine ⟨_, _, hsent, ?_, splitTag_of_issue hissue⟩
      rw [hgrown]
      exact List.getElem?_concat_length
    | decided => cases hstage

end Session

end AnidbClient
