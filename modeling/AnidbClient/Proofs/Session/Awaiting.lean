import AnidbClient.Proofs.Session.Callers

/-!
# The wait for a reply

A caller that has sent its command reads until one arrival decides, or until its time is over.
Which arrival that is, and when, can be told from the inbox at the moment of sending: `WaitEnds`
does so.  It speaks of the arrivals in the order in which they are read, whatever sent them.

Passing over a reply to another command leaves the end of the wait as it was
(`WaitEnds.of_cons`).  So each look either finds the time come, and then brings what decides, or
leaves a wait with the same end (`WaitEnds.hear`).  That is carried through a run by `Awaits`, and
`wait_ends_in_time` is the law: whoever looks as soon as it can stops waiting at that very moment.
-/

namespace AnidbClient

/-! ## What decides -/

/-- What a delivery is to the sender of the command with a tag, where it decides: reading fails, or
brings no reply, or a reply with this tag or without any. -/
inductive Delivery.Decides (tag : Text) : Delivery → Except Error Reply → Prop where
  | failure (reason : Text) : Decides tag (.failure reason) (.error (.transport reason))
  | fault {bytes : Text.Utf8.Bytes} {fault : DecodingFault}
      (hread : Reply.ofDatagram (bytes.take Protocol.receiveLimit) = .error fault) :
      Decides tag (.data bytes) (.error (.decoding fault))
  | reply {bytes : Text.Utf8.Bytes} {reply : Reply}
      (hread : Reply.ofDatagram (bytes.take Protocol.receiveLimit) = .ok reply)
      (htag : reply.tag = none ∨ reply.tag = some tag) : Decides tag (.data bytes) (.ok reply)

/-- The delivery is a reply to another command than the one with this tag. -/
def Delivery.IsForeign (tag : Text) (d : Delivery) : Prop :=
  ∃ reply other, d.read = .ok reply ∧ reply.tag = some other ∧ other ≠ tag

/-- How a wait ends that begins at an instant and has a time limit: when, with what, and what stays
in the inbox.  The first arrival that decides ends it, if it is due by the deadline. -/
inductive WaitEnds (tag : Text) (limit : Duration) (start : Instant) (inbox : List Arrival) :
    Instant → Except Error Reply → List Arrival → Prop where
  | decided {passed rest : List Arrival} {a : Arrival} {answered : Except Error Reply}
      (hinbox : inbox = passed ++ a :: rest)
      (hpassed : ∀ b ∈ passed, b.delivery.IsForeign tag)
      (hdecides : a.delivery.Decides tag answered) (hdue : a.due ≤ start + limit) :
      WaitEnds tag limit start inbox (max start a.due) answered rest
  | timedOut (hpassed : ∀ b ∈ inbox, b.due ≤ start + limit → b.delivery.IsForeign tag) :
      WaitEnds tag limit start inbox (start + limit) (.error (.timeout limit))
        (inbox.filter fun b => start + limit < b.due)

/-- What is due first can be read first. -/
def DueInOrder (inbox : List Arrival) : Prop :=
  inbox.Pairwise fun a b => a.due ≤ b.due

section Decides

variable {tag : Text} {d : Delivery} {answered : Except Error Reply}

theorem Reply.answers_iff {reply : Reply} :
    reply.answers tag = true ↔ reply.tag = none ∨ reply.tag = some tag := by
  unfold Reply.answers
  cases reply.tag <;> simp

theorem Delivery.decides_of_read_error {e : Error} (hread : d.read = .error e) :
    d.Decides tag (.error e) := by
  cases d with
  | failure reason =>
    obtain rfl := Except.error.inj hread
    exact .failure reason
  | data bytes =>
    unfold read at hread
    dsimp only at hread
    cases hreply : Reply.ofDatagram (bytes.take Protocol.receiveLimit) with
    | ok reply =>
      rw [hreply] at hread
      cases hread
    | error fault =>
      rw [hreply] at hread
      obtain rfl := Except.error.inj hread
      exact .fault hreply

theorem Delivery.decides_of_read_ok {reply : Reply} (hread : d.read = .ok reply)
    (hanswers : reply.answers tag = true) : d.Decides tag (.ok reply) := by
  cases d with
  | failure reason => cases hread
  | data bytes =>
    unfold read at hread
    dsimp only at hread
    cases hreply : Reply.ofDatagram (bytes.take Protocol.receiveLimit) with
    | ok reply' =>
      rw [hreply] at hread
      obtain rfl := Except.ok.inj hread
      exact .reply hreply (Reply.answers_iff.1 hanswers)
    | error fault =>
      rw [hreply] at hread
      cases hread

theorem Delivery.isForeign_of_read {reply : Reply} (hread : d.read = .ok reply)
    (hother : reply.answers tag ≠ true) : d.IsForeign tag := by
  rw [Ne, Reply.answers_iff, not_or] at hother
  obtain ⟨other, htag⟩ := Option.ne_none_iff_exists'.1 hother.1
  exact ⟨reply, other, hread, htag, fun heq => hother.2 (heq ▸ htag)⟩

/-- What decides is what is read. -/
theorem Delivery.Decides.read_eq (h : d.Decides tag answered) : d.read = answered := by
  cases h with
  | failure reason => rfl
  | fault hread =>
    unfold read
    dsimp only
    rw [hread]
    rfl
  | reply hread =>
    unfold read
    dsimp only
    rw [hread]
    rfl

/-- A reply to another command decides nothing. -/
theorem Delivery.Decides.not_isForeign (h : d.Decides tag answered) : ¬ d.IsForeign tag := by
  rintro ⟨reply, other, hread, hother, hne⟩
  rw [h.read_eq] at hread
  obtain rfl := hread
  cases h with
  | reply _ htag =>
    rw [hother] at htag
    simp [hne] at htag

/-- There is nothing between deciding and being passed over. -/
theorem Delivery.isForeign_or_decides (tag : Text) (d : Delivery) :
    d.IsForeign tag ∨ ∃ answered, d.Decides tag answered := by
  cases hread : d.read with
  | error e => exact .inr ⟨_, decides_of_read_error hread⟩
  | ok reply =>
    by_cases hanswers : reply.answers tag = true
    · exact .inr ⟨_, decides_of_read_ok hread hanswers⟩
    · exact .inl (isForeign_of_read hread hanswers)

end Decides

/-! ## The end of a wait -/

namespace WaitEnds

variable {tag : Text} {limit : Duration} {start stop now : Instant} {inbox left : List Arrival}
  {answered : Except Error Reply} {a : Arrival}

/-- Every wait has an end. -/
theorem exists_waitEnds (tag : Text) (limit : Duration) (start : Instant)
    (horder : DueInOrder inbox) :
    ∃ stop answered left, WaitEnds tag limit start inbox stop answered left ∧ start ≤ stop := by
  -- On the arrivals: the first one ends the wait, or is passed over, or comes too late.
  induction inbox with
  | nil => exact ⟨_, _, _, .timedOut (by simp), Nat.le_add_right _ _⟩
  | cons a inbox ih =>
    obtain ⟨hfirst, hrest⟩ := List.pairwise_cons.1 horder
    by_cases hdue : a.due ≤ start + limit
    · rcases a.delivery.isForeign_or_decides tag with hforeign | ⟨answered, hdecides⟩
      · obtain ⟨stop, answered, left, hends, hle⟩ := ih hrest
        cases hends with
        | @decided passed rest b _ hinbox hpassed hdecides hdue' =>
          have hinbox' : a :: inbox = (a :: passed) ++ b :: left := by
            rw [hinbox, List.cons_append]
          have hpassed' : ∀ x ∈ a :: passed, x.delivery.IsForeign tag :=
            List.forall_mem_cons.2 ⟨hforeign, hpassed⟩
          exact ⟨_, _, _, .decided hinbox' hpassed' hdecides hdue', hle⟩
        | timedOut hpassed =>
          exact ⟨_, _, _, .timedOut (List.forall_mem_cons.2 ⟨fun _ => hforeign, hpassed⟩), hle⟩
      · exact ⟨_, _, _, .decided (List.nil_append _).symm (by simp) hdecides hdue,
          Nat.le_max_left _ _⟩
    · refine ⟨_, _, _, .timedOut ?_, Nat.le_add_right _ _⟩
      refine List.forall_mem_cons.2 ⟨fun hle => absurd hle hdue, fun b hb hle => ?_⟩
      exact absurd (Nat.le_trans (hfirst b hb) hle) hdue

/-- What is passed over in time changes nothing about the end of the wait. -/
theorem of_cons (hends : WaitEnds tag limit start (a :: inbox) stop answered left)
    (hforeign : a.delivery.IsForeign tag) (hdue : a.due ≤ start + limit) :
    WaitEnds tag limit start inbox stop answered left := by
  cases hends with
  | @decided passed rest b _ hinbox hpassed hdecides hdue' =>
    cases passed with
    | nil =>
      obtain ⟨rfl, rfl⟩ := List.cons.inj hinbox
      exact absurd hforeign hdecides.not_isForeign
    | cons first passed =>
      obtain ⟨rfl, rfl⟩ := List.cons.inj hinbox
      exact .decided rfl (List.forall_mem_cons.1 hpassed).2 hdecides hdue'
  | timedOut hpassed =>
    rw [List.filter_cons_of_neg (by simpa using hdue)]
    exact .timedOut (List.forall_mem_cons.1 hpassed).2

theorem stop_le (hends : WaitEnds tag limit start inbox stop answered left) :
    stop ≤ start + limit := by
  cases hends with
  | decided _ _ _ hdue => exact Nat.max_le.2 ⟨Nat.le_add_right _ _, hdue⟩
  | timedOut => exact Nat.le_refl _

/-- A wait does not end before the first arrival is due, or its time is over. -/
theorem due_le (hends : WaitEnds tag limit start inbox stop answered left)
    (horder : DueInOrder inbox) :
    (inbox.head?.elim (start + limit) fun a => min a.due (start + limit)) ≤ stop := by
  cases hends with
  | @decided passed rest b _ hinbox hpassed hdecides hdue =>
    subst hinbox
    cases passed with
    | nil => exact Nat.le_trans (Nat.min_le_left _ _) (Nat.le_max_right _ _)
    | cons first passed =>
      have hfirst : first.due ≤ b.due := (List.pairwise_cons.1 horder).1 b (by simp)
      exact Nat.le_trans (Nat.min_le_left _ _) (Nat.le_trans hfirst (Nat.le_max_right _ _))
  | timedOut =>
    cases inbox with
    | nil => exact Nat.le_refl _
    | cons first rest => exact Nat.min_le_right _ _

/-- An arrival that decides and is due by now ends the wait at this moment. -/
theorem eq_of_decides {answered' : Except Error Reply}
    (hends : WaitEnds tag limit start (a :: inbox) stop answered left)
    (hdecides : a.delivery.Decides tag answered') (hdue : a.due ≤ now) (hbegun : start ≤ now)
    (hnow : now ≤ stop) : now = stop ∧ answered = answered' ∧ left = inbox := by
  have hdeadline := hends.stop_le
  cases hends with
  | @decided passed rest b _ hinbox hpassed hdecides' hdue' =>
    cases passed with
    | nil =>
      obtain ⟨rfl, rfl⟩ := List.cons.inj hinbox
      exact ⟨Nat.le_antisymm hnow (Nat.max_le.2 ⟨hbegun, hdue⟩),
        hdecides'.read_eq.symm.trans hdecides.read_eq, rfl⟩
    | cons first passed =>
      obtain ⟨rfl, rfl⟩ := List.cons.inj hinbox
      exact absurd (List.forall_mem_cons.1 hpassed).1 hdecides.not_isForeign
  | timedOut hpassed =>
    have hforeign := hpassed a List.mem_cons_self (Nat.le_trans hdue hnow)
    exact absurd hforeign hdecides.not_isForeign

/-- Where nothing more is due, only the end of the time can be the end of the wait. -/
theorem eq_timeout (hends : WaitEnds tag limit start inbox now answered left)
    (hlater : ∀ a ∈ inbox, now < a.due) :
    now = start + limit ∧ answered = .error (.timeout limit) ∧ left = inbox := by
  cases hends with
  | @decided passed rest b _ hinbox hpassed hdecides hdue =>
    have hlt := hlater b (by rw [hinbox]; simp)
    exact absurd (Nat.le_max_right start b.due) (Nat.not_le.2 hlt)
  | timedOut => exact ⟨rfl, rfl, List.filter_eq_self.2 fun a ha => by simpa using hlater a ha⟩

/-- Reading what is due ends the wait when the time has come, and else leaves its end as it was. -/
theorem listen (hends : WaitEnds tag limit start inbox stop answered left)
    (horder : DueInOrder inbox) (hbegun : start ≤ now) (hnow : now ≤ stop) :
    match (listen tag now inbox).verdict with
    | some answered' => now = stop ∧ answered = answered' ∧ left = (listen tag now inbox).rest
    | none =>
      WaitEnds tag limit start (listen tag now inbox).rest stop answered left ∧
        (∀ a ∈ (listen tag now inbox).rest, now < a.due) := by
  -- On the arrivals, as they are read.
  fun_induction AnidbClient.listen tag now inbox with
  | case1 => exact ⟨hends, by simp⟩
  | case2 a inbox hdue =>
    refine ⟨hends, List.forall_mem_cons.2 ⟨hdue, fun b hb => ?_⟩⟩
    exact Nat.lt_of_lt_of_le hdue ((List.pairwise_cons.1 horder).1 b hb)
  | case3 a inbox hdue e hread =>
    exact hends.eq_of_decides (Delivery.decides_of_read_error hread) (Nat.not_lt.1 hdue) hbegun hnow
  | case4 a inbox hdue reply hread hanswers =>
    exact hends.eq_of_decides (Delivery.decides_of_read_ok hread hanswers) (Nat.not_lt.1 hdue)
      hbegun hnow
  | case5 a inbox hdue reply hread hother heard ih =>
    have hle : a.due ≤ start + limit :=
      Nat.le_trans (Nat.not_lt.1 hdue) (Nat.le_trans hnow hends.stop_le)
    exact ih (hends.of_cons (Delivery.isForeign_of_read hread hother) hle)
      (List.pairwise_cons.1 horder).2

end WaitEnds

/-! ## The inbox is in order -/

theorem DueInOrder.insert {inbox : List Arrival} (horder : DueInOrder inbox) (a : Arrival) :
    DueInOrder (Arrival.insert a inbox) := by
  induction inbox with
  | nil => exact List.pairwise_singleton _ a
  | cons b rest ih =>
    obtain ⟨hb, hrest⟩ := List.pairwise_cons.1 horder
    unfold Arrival.insert
    split
    · rename_i hlt
      refine List.pairwise_cons.2 ⟨?_, horder⟩
      refine List.forall_mem_cons.2 ⟨Nat.le_of_lt hlt, fun x hx => ?_⟩
      exact Nat.le_trans (Nat.le_of_lt hlt) (hb x hx)
    · rename_i hge
      refine List.pairwise_cons.2 ⟨fun x hx => ?_, ih hrest⟩
      rcases Arrival.mem_insert.1 hx with rfl | hx
      · exact Nat.not_lt.1 hge
      · exact hb x hx

theorem DueInOrder.deliver {n : Network} (horder : DueInOrder n.inbox) (now : Instant) (tag : Text)
    (sendings : List Sending) : DueInOrder (n.deliver now tag sendings).inbox := by
  unfold Network.deliver
  dsimp only
  generalize n.inbox = inbox at horder ⊢
  induction sendings generalizing inbox with
  | nil => exact horder
  | cons s sendings ih => exact ih _ (horder.insert _)

theorem DueInOrder.post {n : Network} (horder : DueInOrder n.inbox) (now : Instant)
    (line tag : Text) : DueInOrder (n.post now line tag).1.inbox := by
  unfold Network.post
  dsimp only
  split
  · exact horder
  · exact DueInOrder.deliver (n := ⟨_, _, _⟩) horder now tag _

namespace Handler

section Order

variable {c : Client} {now : Instant} {h h' : Handler}

theorem SameWire.dueInOrder (hsame : SameWire h h') (horder : DueInOrder h.network.inbox) :
    DueInOrder h'.network.inbox := by
  rw [hsame.network]
  exact horder

theorem dueInOrder_issue (horder : DueInOrder h.network.inbox) (now : Instant) (r : Request)
    (key : Option Text) : DueInOrder (h.issue now r key).1.network.inbox := by
  rw [network_issue]
  split
  · exact horder.post now _ _
  · exact horder

/-- Sending a command keeps the inbox in order. -/
theorem Admits.dueInOrder_of_issue {call : Call} {key held : Option Text} {ready issued : Handler}
    {sent : Except Error Text} (hadmits : Admits c now h call key held ready)
    (horder : DueInOrder h.network.inbox)
    (hissue : ready.issue now (call.request c) key = (issued, sent)) :
    DueInOrder issued.network.inbox := by
  have hissued := dueInOrder_issue (hadmits.sameWire.dueInOrder horder) now (call.request c) key
  rw [hissue] at hissued
  exact hissued

theorem Heeds.dueInOrder {p : Pending} {turn : Handler × Turn Pending (Except Error Success)}
    (hheed : Heeds c now h p turn) (horder : DueInOrder h.network.inbox) :
    DueInOrder turn.1.network.inbox := by
  have hheard : DueInOrder (h.hear c now p).1.network.inbox :=
    horder.sublist (rest_sublist p.tag now h.network.inbox)
  cases hheed with
  | waits hhear =>
    rw [hhear] at hheard
    exact hheard
  | @ends h' answered hhear =>
    rw [hhear] at hheard
    exact (sameWire_conclude c now h' p.call p.held answered).dueInOrder hheard

theorem Enters.dueInOrder {call : Call} {turn : Handler × Turn Pending (Except Error Success)}
    (henter : Enters c now h call turn) (horder : DueInOrder h.network.inbox) :
    DueInOrder turn.1.network.inbox := by
  cases henter with
  | refused hrefuse => exact hrefuse.sameWire.dueInOrder horder
  | @unsent key held ready issued e hadmits hissue =>
    exact (sameWire_conclude c now issued call held (.error e)).dueInOrder
      (hadmits.dueInOrder_of_issue horder hissue)
  | @sent key held ready issued t turn hadmits hissue hheed =>
    exact hheed.dueInOrder (hadmits.dueInOrder_of_issue horder hissue)

theorem dueInOrder_opened (server : Server) : DueInOrder (opened server).network.inbox :=
  List.Pairwise.nil

theorem keeps_dueInOrder (c : Client) :
    (service c).Keeps fun _ _ h => DueInOrder h.network.inbox where
  later _ horder := horder
  arrive call horder := (sameWire_arrive c _ _ call).dueInOrder horder
  enter call horder := (enters_enter c _ _ call).dueInOrder horder
  resume horder := (heeds_resume c _ _ _).dueInOrder horder
  abandon horder := (sameWire_abandon _ _).dueInOrder horder

end Order

end Handler

/-- A look ends the wait when the time has come, and else leaves a wait with the same end. -/
theorem WaitEnds.hear {c : Client} {start stop now : Instant} {h : Handler} {p : Pending}
    {answered : Except Error Reply} {left : List Arrival}
    (hends : WaitEnds p.tag c.requestTimeout start h.network.inbox stop answered left)
    (hdeadline : p.deadline = start + c.requestTimeout) (horder : DueInOrder h.network.inbox)
    (hbegun : start ≤ now) (hnow : now ≤ stop) :
    (now = stop ∧ (h.hear c now p).2 = some answered ∧ (h.hear c now p).1.network.inbox = left) ∨
      (now < stop ∧ (h.hear c now p).2 = none ∧
        WaitEnds p.tag c.requestTimeout start (h.hear c now p).1.network.inbox stop answered
          left) := by
  have hlisten := hends.listen horder hbegun hnow
  rw [Handler.hear_snd, hdeadline]
  show (now = stop ∧ _ ∧ (AnidbClient.listen p.tag now h.network.inbox).rest = left) ∨
    (now < stop ∧ _ ∧ WaitEnds p.tag c.requestTimeout start
      (AnidbClient.listen p.tag now h.network.inbox).rest stop answered left)
  cases hverdict : (AnidbClient.listen p.tag now h.network.inbox).verdict with
  | some answered' =>
    rw [hverdict] at hlisten
    obtain ⟨hstop, rfl, hleft⟩ := hlisten
    exact .inl ⟨hstop, rfl, hleft.symm⟩
  | none =>
    rw [hverdict] at hlisten
    obtain ⟨hrest, hlater⟩ := hlisten
    rcases Nat.lt_or_eq_of_le hnow with hlt | rfl
    · have hearly : ¬ start + c.requestTimeout ≤ now :=
        Nat.not_le.2 (Nat.lt_of_lt_of_le hlt hends.stop_le)
      exact .inr ⟨hlt, if_neg hearly, hrest⟩
    · obtain ⟨hstop, rfl, hleft⟩ := hrest.eq_timeout hlater
      exact .inl ⟨rfl, if_pos (Nat.le_of_eq hstop.symm), hleft.symm⟩

/-- A call ends with the error that decides. -/
theorem Delivery.Decides.outcome_eq {tag : Text} {d : Delivery} {e : Error}
    (h : d.Decides tag (.error e)) (c : Client) (call : Call) :
    call.outcome c (.error e) = .error e := by
  cases h with
  | failure reason => exact Handler.outcome_of_error rfl
  | fault => cases call <;> rfl

/-- A call ends with the error that ends its wait. -/
theorem WaitEnds.outcome_eq {tag : Text} {limit : Duration} {start stop : Instant}
    {inbox left : List Arrival} {e : Error}
    (hends : WaitEnds tag limit start inbox stop (.error e) left) (c : Client) (call : Call) :
    call.outcome c (.error e) = .error e := by
  cases hends with
  | decided _ _ hdecides _ => exact hdecides.outcome_eq c call
  | timedOut => exact Handler.outcome_of_error rfl

/-- A caller for which nothing decides yet goes on waiting. -/
theorem Handler.resume_of_hear_none {c : Client} {now : Instant} {h : Handler} {p : Pending}
    (hnone : (h.hear c now p).2 = none) :
    h.resume c now p = ((h.hear c now p).1, .staying p) := by
  unfold resume
  split
  · rename_i heq
    rw [heq]
  · rename_i heq
    rw [heq] at hnone
    cases hnone

/-- A caller that has sent its command, and for which nothing decides yet, begins to wait. -/
theorem Handler.enter_of_hear_none {c : Client} {now : Instant} {h ready sent : Handler}
    {call : Call} {key held : Option Text} {tag : Text}
    (hadmits : Admits c now h call key held ready)
    (hissue : ready.issue now (call.request c) key = (sent, .ok tag))
    (hnone : (sent.hear c now ⟨call, held, tag, now + c.requestTimeout⟩).2 = none) :
    enter c now call h = ((sent.hear c now ⟨call, held, tag, now + c.requestTimeout⟩).1,
      .staying ⟨call, held, tag, now + c.requestTimeout⟩) := by
  rw [hadmits.enter_eq]
  simp only [engage, hissue]
  exact resume_of_hear_none hnone

/-! ## Runs -/

namespace Session

open Turnstile Handler

variable (c : Client) (l : Limits) (server : Server)

/-- The caller looks as soon as there is something for it to read or its time is over: while it
waits no time passes beyond that. -/
def Prompt (events later : List (Event Call)) (id : Caller) : Prop :=
  ∀ mid d rest, later = mid ++ .tick d :: rest → ∀ p,
    (after c l server (events ++ mid)).stage id = some (.inside p) →
      (after c l server (events ++ mid)).now + d ≤ (after c l server (events ++ mid)).state.due p

/-- When the caller looks its call ends, with the result that this means for it, and this is left
in the inbox. -/
def StopsWaiting (events : List (Event Call)) (id : Caller) (call : Call)
    (answered : Except Error Reply) (left : List Arrival) : Prop :=
  (after c l server (events ++ [.poll id])).stage id =
      some (.left (.result (call.outcome c answered))) ∧
    (after c l server (events ++ [.poll id])).state.network.inbox = left

/-- A look since these earlier events came when the time had come, and ended the wait. -/
def HasStopped (before events : List (Event Call)) (id : Caller) (call : Call) (stop : Instant)
    (answered : Except Error Reply) (left : List Arrival) : Prop :=
  ∃ mid, before <+: mid ∧ mid ++ [.poll id] <+: events ∧ (after c l server mid).now = stop ∧
    StopsWaiting c l server mid id call answered left

/-- The caller waits in time, and its wait ends so. -/
structure Awaits (events : List (Event Call)) (id : Caller) (p : Pending) (start stop : Instant)
    (answered : Except Error Reply) (left : List Arrival) : Prop where
  stage : (after c l server events).stage id = some (.inside p)
  deadline : p.deadline = start + c.requestTimeout
  ends : WaitEnds p.tag c.requestTimeout start (after c l server events).state.network.inbox stop
    answered left
  begun : start ≤ (after c l server events).now
  inTime : (after c l server events).now ≤ stop

section Awaits

variable {c l server} {events before : List (Event Call)} {id : Caller} {call : Call}
  {p : Pending} {start stop : Instant} {answered : Except Error Reply} {left : List Arrival}

theorem dueInOrder_after (c : Client) (l : Limits) (server : Server) (events : List (Event Call)) :
    DueInOrder (after c l server events).state.network.inbox :=
  (keeps_dueInOrder c).run (orderly_opened _) (dueInOrder_opened server) events

theorem Prompt.of_append {later more : List (Event Call)}
    (hprompt : Prompt c l server events (later ++ more) id) :
    Prompt c l server events later id := by
  rintro mid d rest rfl
  exact hprompt mid d (rest ++ more) (by simp)

theorem HasStopped.append
    (h : HasStopped c l server before events id call stop answered left)
    (later : List (Event Call)) :
    HasStopped c l server before (events ++ later) id call stop answered left := by
  obtain ⟨mid, hbefore, hmid, hstops⟩ := h
  exact ⟨mid, hbefore, hmid.trans (List.prefix_append _ _), hstops⟩

theorem Decides.stopsWaiting {held : Option Text} {h : Handler}
    (hdecides : Decides c l (after c l server events) id call held h answered)
    (hleft : h.network.inbox = left) : StopsWaiting c l server events id call answered left := by
  unfold StopsWaiting
  rw [after_concat, hdecides.stage_eq, hdecides.state_eq, conclude_snd hdecides.suits,
    (sameWire_conclude c _ h call held answered).network]
  exact ⟨rfl, hleft⟩

/-- A look ends the wait when the time has come, and else the caller waits on. -/
theorem Awaits.poll (h : Awaits c l server events id p start stop answered left) :
    ((after c l server events).now = stop ∧
        StopsWaiting c l server events id p.call answered left) ∨
      ((after c l server events).now < stop ∧
        Awaits c l server (events ++ [.poll id]) id p start stop answered left) := by
  rcases h.ends.hear h.deadline (dueInOrder_after c l server events) h.begun h.inTime with
    ⟨hstop, hanswered, hleft⟩ | ⟨hlt, hnone, hends⟩
  · have hdecides : Decides c l (after c l server events) id p.call p.held _ answered :=
      .waiting h.stage (Prod.ext rfl hanswered)
    exact .inl ⟨hstop, hdecides.stopsWaiting hleft⟩
  · have hresume : (service c).resume (after c l server events).now p
        (after c l server events).state =
          (((after c l server events).state.hear c (after c l server events).now p).1,
            .staying p) :=
      resume_of_hear_none hnone
    have hstep : after c l server (events ++ [.poll id]) = _ :=
      (after_concat c l server events (.poll id)).trans (poll_of_inside _ _ h.stage)
    rw [hresume, settle_staying] at hstep
    refine .inr ⟨hlt, ?_, h.deadline, ?_, ?_, ?_⟩
    · rw [hstep, stage_setStage_self]
    · rw [hstep]
      exact hends
    · rw [hstep]
      exact h.begun
    · rw [hstep]
      exact h.inTime

/-- Whoever is let in and can send its command begins to wait, or is done with it at once. -/
theorem awaits_of_issue {pace : Pace} {key held : Option Text} {ready sent : Handler} {tag : Text}
    (hin : GoesIn (service c) l (after c l server before) id call pace)
    (hadmits : Admits c (after c l server before).now (after c l server before).state call key held
      ready)
    (hissue : ready.issue (after c l server before).now (call.request c) key = (sent, .ok tag))
    (hends : WaitEnds tag c.requestTimeout (after c l server before).now sent.network.inbox stop
      answered left) (hstop : (after c l server before).now ≤ stop) :
    HasStopped c l server before (before ++ [.poll id]) id call stop answered left ∨
      Awaits c l server (before ++ [.poll id]) id
        ⟨call, held, tag, (after c l server before).now + c.requestTimeout⟩
        (after c l server before).now stop answered left := by
  have horder := hadmits.dueInOrder_of_issue (dueInOrder_after c l server before) hissue
  rcases hends.hear (p := ⟨call, held, tag, _⟩) rfl horder (Nat.le_refl _) hstop with
    ⟨heq, hanswered, hleft⟩ | ⟨hlt, hnone, hends'⟩
  · have hdecides : Decides c l (after c l server before) id call held _ answered :=
      .atOnce hin hadmits hissue (Prod.ext rfl hanswered)
    exact .inl ⟨before, List.prefix_refl _, List.prefix_refl _, heq, hdecides.stopsWaiting hleft⟩
  · right
    have henter : (service c).enter (after c l server before).now call
        (after c l server before).state = ((sent.hear c (after c l server before).now
          ⟨call, held, tag, (after c l server before).now + c.requestTimeout⟩).1,
            .staying ⟨call, held, tag, (after c l server before).now + c.requestTimeout⟩) :=
      enter_of_hear_none hadmits hissue hnone
    have hstep : after c l server (before ++ [.poll id]) = _ :=
      (after_concat c l server before (.poll id)).trans hin.poll_eq
    rw [henter, settle_staying] at hstep
    refine ⟨?_, rfl, ?_, ?_, ?_⟩
    · rw [hstep, stage_setStage_self]
    · rw [hstep]
      exact hends'
    · rw [hstep]
      exact Nat.le_refl _
    · rw [hstep]
      exact hstop

/-- Nobody else touches the inbox while a caller is inside. -/
theorem network_step_of_inside {w : Session} (hw : w.Orderly)
    (hid : w.stage id = some (.inside p)) {e : Event Call} (hpoll : e ≠ .poll id)
    (hdrop : e ≠ .drop id) :
    (w.step (service c) l e).stage id = some (.inside p) ∧
      (w.step (service c) l e).state.network = w.state.network := by
  cases e with
  | tick d => exact ⟨hid, rfl⟩
  | poll k =>
    have hsame : w.step (service c) l (.poll k) = w :=
      hw.poll_of_ne hid (fun heq => hpoll (congrArg _ heq)) (service c) l
    rw [hsame]
    exact ⟨hid, rfl⟩
  | drop k =>
    obtain ⟨hstate, hstage⟩ := hw.drop_of_ne hid (fun heq => hdrop (congrArg _ heq)) (service c)
    exact ⟨hstage.trans hid, congrArg Handler.network hstate⟩
  | call k ticket =>
    have hm := move_step (service c) l w (.call k ticket)
    generalize w.step (service c) l (.call k ticket) = w' at hm ⊢
    cases hm with
    | rest => exact ⟨hid, rfl⟩
    | ask hnew => exact ⟨stage_setStage_inside hid (by simp [hnew]), rfl⟩
    | @refuse _ j t r hnew harrive =>
      have hsame := (sameWire_arrive c w.now w.state j).network
      rw [show arrive c w.now j w.state = (t, some r) from harrive] at hsame
      exact ⟨stage_setStage_inside hid (by simp [hnew]), hsame⟩
    | @queue _ j t hnew harrive =>
      have hsame := (sameWire_arrive c w.now w.state j).network
      rw [show arrive c w.now j w.state = (t, none) from harrive] at hsame
      exact ⟨stage_setStage_inside hid (by simp [hnew]), hsame⟩

/-- A caller that waits goes on waiting at every event, unless it looks when the time has come. -/
theorem Awaits.concat (h : Awaits c l server events id p start stop answered left)
    {e : Event Call} (hstays : e ≠ .drop id)
    (hprompt : ∀ d, e = .tick d →
      (after c l server events).now + d ≤ (after c l server events).state.due p) :
    Awaits c l server (events ++ [e]) id p start stop answered left ∨
      e = .poll id ∧ (after c l server events).now = stop ∧
        StopsWaiting c l server events id p.call answered left := by
  by_cases hpoll : e = .poll id
  · subst hpoll
    rcases h.poll with hover | ⟨_, hwaits⟩
    · exact .inr ⟨rfl, hover⟩
    · exact .inl hwaits
  · left
    obtain ⟨hstage, hnetwork⟩ :=
      network_step_of_inside (c := c) (l := l) (orderly_after c l server events) h.stage hpoll
        hstays
    have hnow := now_step (service c) l (after c l server events) e
    rw [← after_concat] at hstage hnetwork hnow
    refine ⟨hstage, h.deadline, ?_, ?_, ?_⟩
    · rw [hnetwork]
      exact h.ends
    · rcases hnow with hsame | ⟨d, _, hlater⟩
      · rw [hsame]
        exact h.begun
      · rw [hlater]
        exact Nat.le_trans h.begun (Nat.le_add_right _ _)
    · rcases hnow with hsame | ⟨d, rfl, hlater⟩
      · rw [hsame]
        exact h.inTime
      · have hdue := h.ends.due_le (dueInOrder_after c l server events)
        rw [← h.deadline] at hdue
        rw [hlater]
        exact Nat.le_trans (hprompt d rfl) hdue

/-- Whoever looks as soon as it can waits until the time has come. -/
theorem awaits_or_hasStopped (p : Pending) {later : List (Event Call)}
    (hbegins : HasStopped c l server before (before ++ [.poll id]) id p.call stop answered left ∨
      Awaits c l server (before ++ [.poll id]) id p start stop answered left)
    (hstays : .drop id ∉ later) (hprompt : Prompt c l server (before ++ [.poll id]) later id) :
    HasStopped c l server before (before ++ [.poll id] ++ later) id p.call stop answered left ∨
      Awaits c l server (before ++ [.poll id] ++ later) id p start stop answered left := by
  induction later using List.reverseRecOn with
  | nil =>
    rw [List.append_nil]
    exact hbegins
  | append_singleton later e ih =>
    rw [← List.append_assoc]
    rw [List.mem_append, not_or] at hstays
    rcases ih hstays.1 hprompt.of_append with hstopped | hwaits
    · exact .inl (hstopped.append [e])
    · have hlast : e ≠ .drop id := fun heq => hstays.2 (List.mem_singleton.2 heq.symm)
      rcases hwaits.concat hlast fun d hd => hprompt later d [] (by rw [hd]) p hwaits.stage with
        hwaits' | ⟨rfl, hstops⟩
      · exact .inr hwaits'
      · refine .inl ⟨_, ?_, List.prefix_refl _, hstops⟩
        rw [List.append_assoc]
        exact List.prefix_append _ _

/-- Waiting for a reply is decided by one arrival and bounded by one deadline: when the command of
a caller has been sent, the inbox tells how its wait ends.  If the caller looks as soon as it can
and is not called away, it waits until that moment, and the first look at that moment ends its
call. -/
theorem wait_ends_in_time {pace : Pace} {key held : Option Text} {ready sent : Handler} {tag : Text}
    (hin : GoesIn (service c) l (after c l server before) id call pace)
    (hadmits : Admits c (after c l server before).now (after c l server before).state call key held
      ready)
    (hissue : ready.issue (after c l server before).now (call.request c) key = (sent, .ok tag)) :
    ∃ stop answered left,
      WaitEnds tag c.requestTimeout (after c l server before).now sent.network.inbox stop answered
        left ∧
      (∀ e, answered = .error e → call.outcome c answered = .error e) ∧
      ∀ later, .drop id ∉ later → Prompt c l server (before ++ [.poll id]) later id →
        let events := before ++ [.poll id] ++ later
        HasStopped c l server before events id call stop answered left ∨
          (after c l server events).stage id = some (.inside
              ⟨call, held, tag, (after c l server before).now + c.requestTimeout⟩) ∧
            ((after c l server events).now < stop ∨
              (after c l server events).now = stop ∧
                StopsWaiting c l server events id call answered left) := by
  obtain ⟨stop, answered, left, hends, hstop⟩ :=
    WaitEnds.exists_waitEnds tag c.requestTimeout (after c l server before).now
      (hadmits.dueInOrder_of_issue (dueInOrder_after c l server before) hissue)
  refine ⟨stop, answered, left, hends, ?_, fun later hstays hprompt => ?_⟩
  · rintro e rfl
    exact hends.outcome_eq c call
  · have hbegins := awaits_of_issue hin hadmits hissue hends hstop
    rcases awaits_or_hasStopped ⟨call, held, tag, _⟩ hbegins hstays hprompt with hstopped | hwaits
    · exact .inl hstopped
    · refine .inr ⟨hwaits.stage, ?_⟩
      rcases hwaits.poll with hstops | ⟨hearly, _⟩
      · exact .inr hstops
      · exact .inl hearly

end Awaits

/-- A server that answers the first command too late, and the second one twice. -/
def belatedServer : Server :=
  .scripted [.respond [⟨.ofSecs 34, .reply .own "300 PONG"⟩],
    .respond [⟨.ofSecs 2, .reply .own "300 PONG"⟩, ⟨.ofSecs 5, .reply .own "300 PONG"⟩]]

/-- A sign of life is given up, and the next one has kept its delay. -/
def pingAgain : List (Event Call) :=
  [.call 0 (.job .ping), .poll 0, .tick (.ofSecs 30), .poll 0, .call 1 (.job .ping), .poll 1,
    .tick (.ofSecs 3)]

/-- The caller looks at the reply to the first command, and a second later at its own. -/
def twoLooks : List (Event Call) :=
  [.tick (.ofSecs 1), .poll 1, .tick (.ofSecs 1), .poll 1]

theorem prompt_twoLooks :
    Prompt .plain Settings.default.spacing.limits belatedServer (pingAgain ++ [.poll 1]) twoLooks
      1 := by
  intro mid d rest heq p hid
  unfold twoLooks at heq
  rcases mid with _ | ⟨_, _ | ⟨_, _ | ⟨_, _ | ⟨_, mid⟩⟩⟩⟩ <;> simp at heq
  · obtain ⟨rfl, rfl⟩ := heq
    have hstage : (after .plain Settings.default.spacing.limits belatedServer
        (pingAgain ++ [.poll 1] ++ [])).stage 1 =
          some (.inside ⟨.ping, none, "t2".toList, Duration.ofSecs 63⟩) := by
      decide +kernel
    cases hstage.symm.trans hid
    decide +kernel
  · obtain ⟨rfl, rfl, rfl, rfl⟩ := heq
    have hstage : (after .plain Settings.default.spacing.limits belatedServer
        (pingAgain ++ [.poll 1] ++ [.tick (.ofSecs 1), .poll 1])).stage 1 =
          some (.inside ⟨.ping, none, "t2".toList, Duration.ofSecs 63⟩) := by
      decide +kernel
    cases hstage.symm.trans hid
    decide +kernel

theorem wait_ends_in_time_of_pingAgain :
    ∃ stop answered left,
      WaitEnds "t2".toList (.ofSecs 30) (Duration.ofSecs 33)
        ((after .plain Settings.default.spacing.limits belatedServer pingAgain).state.issue
          (Duration.ofSecs 33) (Call.ping.request .plain) none).1.network.inbox stop answered left ∧
      HasStopped .plain Settings.default.spacing.limits belatedServer pingAgain
        (pingAgain ++ [.poll 1] ++ twoLooks) 1 .ping stop answered left := by
  have hnow : (after .plain Settings.default.spacing.limits belatedServer pingAgain).now =
      Duration.ofSecs 33 := by
    decide +kernel
  have hpaced : (after .plain Settings.default.spacing.limits belatedServer pingAgain).stage 1 =
      some (.pacing .ping (Duration.ofMillis 32550)) := by
    decide +kernel
  have hready : Duration.ofMillis 32550 ≤
      (after .plain Settings.default.spacing.limits belatedServer pingAgain).now := by
    decide +kernel
  have hissue : ((after .plain Settings.default.spacing.limits belatedServer pingAgain).state.issue
      (after .plain Settings.default.spacing.limits belatedServer pingAgain).now
        (Call.ping.request .plain) none).2 = .ok "t2".toList := by
    decide +kernel
  obtain ⟨stop, answered, left, hends, _, hlater⟩ :=
    wait_ends_in_time (.paced hpaced hready) .ping (Prod.ext rfl hissue)
  rw [hnow] at hends
  refine ⟨stop, answered, left, hends, ?_⟩
  rcases hlater twoLooks (by simp [twoLooks]) prompt_twoLooks with hstopped | ⟨hwaits, _⟩
  · exact hstopped
  · have hleft : (after .plain Settings.default.spacing.limits belatedServer
        (pingAgain ++ [.poll 1] ++ twoLooks)).stage 1 =
          some (.left (.result (.ok (.pong none)))) := by
      decide +kernel
    cases hleft.symm.trans hwaits

end Session

end AnidbClient
