import AnidbClient.Proofs.CommandLine
import AnidbClient.Proofs.Reply
import AnidbClient.Proofs.Session.Outcome
import AnidbClient.Proofs.Text.Numeral

/-!
# Where datagrams come from

Everything that can be read was sent by the server when it saw a command (`Server.Sends`).  A
handler that is `Traced` knows nothing else in its inbox, and has given every command a tag of its
own; `traced_after` says that handlers always are.

A server is honest about some commands when each of its datagrams is a reply with the tag of a
command that it has seen by then.  When and how often it sends a reply is left open.  A reply that
has the tag of a command then answers that very command (`Traced.answered`), however late it comes
and whatever else comes in between.
-/

namespace AnidbClient

open Text.Utf8 (encode)

/-! ## Servers that answer -/

/-- The datagram is a reply with the tag: the tag and a blank, a return code, and what belongs to
it.  It can be received as a whole. -/
def Delivery.IsReplyTo (tag : Text) (d : Delivery) : Prop :=
  ∃ code body, d = .data (encode (tag ++ ' ' :: (code ++ body))) ∧
    (Text.u16? code).isSome = true ∧
    (∀ c rest, body = c :: rest → Reply.endsToken c = true) ∧
    (encode (tag ++ ' ' :: (code ++ body))).length ≤ Protocol.receiveLimit

namespace Server

/-- The server when it has seen these lines. -/
def after (server : Server) (lines : List Text) : Server :=
  lines.foldl (fun s line => (s.react line).1) server

/-- The server sends this when it sees the line with this number. -/
def Sends (server : Server) (lines : List Text) (k : Nat) (d : Delivery) : Prop :=
  ∃ line tag sendings s, lines[k]? = some line ∧ (CommandLine.splitTag line).2 = some tag ∧
    ((server.after (lines.take k)).react line).2 = .respond sendings ∧ s ∈ sendings ∧
    d = s.content.delivery tag

/-- The datagram is a reply with the tag of the line with this number. -/
def Answers (lines : List Text) (i : Nat) (d : Delivery) : Prop :=
  ∃ line tag, lines[i]? = some line ∧ (CommandLine.splitTag line).2 = some tag ∧ d.IsReplyTo tag

/-- The reply is read from an answer to the line with this number, which the server sent when it
saw that line or a later one. -/
def Replies (server : Server) (lines : List Text) (i : Nat) (reply : Reply) : Prop :=
  ∃ k d, i ≤ k ∧ server.Sends lines k d ∧ Answers lines i d ∧ d.read = .ok reply

/-- Whatever the server sends answers a line that it has seen by then, unless receiving fails. -/
def HonestOn (server : Server) (lines : List Text) : Prop :=
  ∀ k d, server.Sends lines k d →
    (∃ reason, d = .failure reason) ∨ ∃ i ≤ k, Answers lines i d

variable {server : Server} {lines : List Text} {i : Nat} {d : Delivery}

theorem after_concat (server : Server) (lines : List Text) (line : Text) :
    server.after (lines ++ [line]) = ((server.after lines).react line).1 := by
  unfold after
  rw [List.foldl_append]
  rfl

theorem Sends.lt_length (hsends : server.Sends lines i d) : i < lines.length := by
  obtain ⟨_, _, _, _, hline, _⟩ := hsends
  exact (List.getElem?_eq_some_iff.1 hline).1

theorem Sends.append (hsends : server.Sends lines i d) (more : List Text) :
    server.Sends (lines ++ more) i d := by
  have hi := hsends.lt_length
  obtain ⟨line, tag, sendings, s, hline, htag, hreact, hs, hd⟩ := hsends
  refine ⟨line, tag, sendings, s, ?_, htag, ?_, hs, hd⟩
  · rw [List.getElem?_append_left hi]
    exact hline
  · rw [List.take_append_of_le_length (Nat.le_of_lt hi)]
    exact hreact

theorem answers_append {more : List Text} (hi : i < lines.length) :
    Answers (lines ++ more) i d ↔ Answers lines i d := by
  unfold Answers
  rw [List.getElem?_append_left hi]

theorem Replies.append {reply : Reply} (hreplies : server.Replies lines i reply)
    (more : List Text) : server.Replies (lines ++ more) i reply := by
  obtain ⟨k, d, hik, hsends, hanswers, hread⟩ := hreplies
  have hi : i < lines.length := Nat.lt_of_le_of_lt hik hsends.lt_length
  exact ⟨k, d, hik, hsends.append more, (answers_append hi).2 hanswers, hread⟩

/-- Who is honest about some lines is honest about the first of them. -/
theorem HonestOn.of_append {more : List Text} (hhonest : server.HonestOn (lines ++ more)) :
    server.HonestOn lines := by
  intro k d hsends
  rcases hhonest k d (hsends.append more) with hfailure | ⟨i, hik, hanswers⟩
  · exact .inl hfailure
  · have hi : i < lines.length := Nat.lt_of_le_of_lt hik hsends.lt_length
    exact .inr ⟨i, hik, (answers_append hi).1 hanswers⟩

/-- A script is honest when every reply in it has the tag of the command that it is sent for. -/
theorem honestOn_scripted {reactions : List Reaction}
    (hown : ∀ sendings, .respond sendings ∈ reactions → ∀ s ∈ sendings,
      (∃ reason, s.content = .failure reason) ∨
        ∀ line ∈ lines, ∀ tag, (CommandLine.splitTag line).2 = some tag →
          (s.content.delivery tag).IsReplyTo tag) :
    (scripted reactions).HonestOn lines := by
  have hafter : ∀ seen : List Text,
      (scripted reactions).after seen = scripted (reactions.drop seen.length) := by
    intro seen
    induction seen using List.reverseRecOn with
    | nil => rfl
    | append_singleton seen line ih =>
      rw [after_concat, ih, List.length_append, List.length_singleton, ← List.drop_drop]
      cases reactions.drop seen.length <;> rfl
  intro k d hsends
  obtain ⟨line, tag, sendings, s, hline, htag, hreact, hs, rfl⟩ := hsends
  rw [hafter] at hreact
  cases hscript : reactions.drop (lines.take k).length with
  | nil =>
    rw [hscript] at hreact
    cases hreact
    cases hs
  | cons reaction rest =>
    rw [hscript] at hreact
    obtain rfl : reaction = .respond sendings := hreact
    have hmem : Reaction.respond sendings ∈ reactions :=
      List.mem_of_mem_drop (hscript ▸ List.mem_cons_self)
    rcases hown sendings hmem s hs with ⟨reason, hfailure⟩ | hreply
    · exact .inl ⟨reason, by rw [hfailure]; rfl⟩
    · have hanswer := hreply line (List.mem_of_getElem? hline) tag htag
      exact .inr ⟨k, Nat.le_refl k, line, tag, hline, htag, hanswer⟩

end Server

/-! ## The inbox -/

theorem Arrival.mem_insert {a b : Arrival} {inbox : List Arrival} :
    b ∈ Arrival.insert a inbox ↔ b = a ∨ b ∈ inbox := by
  induction inbox with
  | nil => simp [Arrival.insert]
  | cons first rest ih =>
    unfold Arrival.insert
    split
    · simp
    · rw [List.mem_cons, ih, List.mem_cons]
      exact or_left_comm

/-- What can be read after a delivery could be read before, or was sent now. -/
theorem Network.mem_deliver {now : Instant} {tag : Text} {n : Network} {sendings : List Sending}
    {a : Arrival} (ha : a ∈ (n.deliver now tag sendings).inbox) :
    a ∈ n.inbox ∨ ∃ s ∈ sendings, a.delivery = s.content.delivery tag := by
  unfold Network.deliver at ha
  dsimp only at ha
  generalize n.inbox = inbox at ha ⊢
  induction sendings generalizing inbox with
  | nil => exact .inl ha
  | cons s sendings ih =>
    rcases ih _ ha with hmem | ⟨s', hs', hd⟩
    · rcases Arrival.mem_insert.1 hmem with rfl | hmem
      · exact .inr ⟨s, List.mem_cons_self, rfl⟩
      · exact .inl hmem
    · exact .inr ⟨s', List.mem_cons_of_mem s hs', hd⟩

theorem Network.server_post (now : Instant) (line tag : Text) (n : Network) :
    (n.post now line tag).1.server = (n.server.react line).1 := by
  unfold Network.post
  dsimp only
  split <;> rfl

/-- What can be read after a command could be read before, or is the reaction to the command. -/
theorem Network.mem_post {now : Instant} {line tag : Text} {n : Network} {a : Arrival}
    (ha : a ∈ (n.post now line tag).1.inbox) :
    a ∈ n.inbox ∨ ∃ sendings s, (n.server.react line).2 = .respond sendings ∧ s ∈ sendings ∧
      a.delivery = s.content.delivery tag := by
  unfold Network.post at ha
  dsimp only at ha
  split at ha
  · exact .inl ha
  · rename_i sendings hreact
    rcases Network.mem_deliver ha with hmem | ⟨s, hs, hd⟩
    · exact .inl hmem
    · exact .inr ⟨sendings, s, hreact, hs, hd⟩

/-! ## Tags -/

namespace Handler

theorem tagOf_injective {m n : Nat} (h : tagOf m = tagOf n) : m = n :=
  Text.digits_injective (List.cons.inj h).2

private theorem not_mem_tagOf {ch : Char} (ht : ch ≠ 't') (hdigit : Text.digit? ch = none)
    (n : Nat) : ch ∉ tagOf n := by
  unfold tagOf
  rw [List.mem_cons, not_or]
  exact ⟨ht, Text.not_mem_digits hdigit n⟩

theorem isTag_tagOf (n : Nat) : Reply.IsTag (tagOf n) where
  ne_nil := by simp [tagOf]
  one_token ch hch := by
    have hblank : ch ≠ ' ' := by
      rintro rfl
      exact not_mem_tagOf (by decide) (by decide) n hch
    have hfeed : ch ≠ '\n' := by
      rintro rfl
      exact not_mem_tagOf (by decide) (by decide) n hch
    simp [Reply.endsToken, hblank, hfeed]
  no_digit := by
    show (Text.digit? 't').isSome = false
    decide

theorem encode_tagOf (n : Nat) : Wire.encode (tagOf n) = tagOf n := by
  apply Wire.encode_eq_self
  intro ch hch
  refine ⟨?_, ?_, ?_⟩ <;> rintro rfl <;> exact not_mem_tagOf (by decide) (by decide) n hch

/-- The server finds the tag of every command. -/
theorem splitTag_tagOf (r : Request) (key : Option Text) (n : Nat) :
    (CommandLine.splitTag (r.line key (some (tagOf n)))).2 = some (tagOf n) := by
  rw [CommandLine.splitTag_line r key (not_mem_tagOf (by decide) (by decide) n), encode_tagOf]

/-! ## Handlers that know where everything comes from -/

/-- The command lines that were sent. -/
def lines (h : Handler) : List Text :=
  h.network.sent.map Prod.snd

/-- Every command has a tag of its own, and everything in the inbox was sent on account of one. -/
structure Traced (server : Server) (h : Handler) : Prop where
  server_eq : h.network.server = server.after h.lines
  /-- The numbers of the tags grow, and the next one is greater than all. -/
  tags : ∃ numbers : List Nat, numbers.Pairwise (· < ·) ∧ (∀ n ∈ numbers, n < h.nextTag) ∧
    h.lines.map (fun line => (CommandLine.splitTag line).2) =
      numbers.map fun n => some (tagOf n)
  inbox : ∀ a ∈ h.network.inbox, ∃ k, server.Sends h.lines k a.delivery

section Traced

variable {server : Server} {c : Client} {now : Instant} {h h' : Handler}

theorem traced_opened (server : Server) : Traced server (opened server) where
  server_eq := rfl
  tags := ⟨[], List.Pairwise.nil, by simp, rfl⟩
  inbox a ha := by cases ha

theorem SameWire.traced (hsame : SameWire h h') (htraced : Traced server h) :
    Traced server h' := by
  have hlines : h'.lines = h.lines := by
    unfold lines
    rw [hsame.network]
  refine ⟨?_, ?_, ?_⟩
  · rw [hlines, hsame.network]
    exact htraced.server_eq
  · rw [hlines, hsame.nextTag]
    exact htraced.tags
  · rw [hlines, hsame.network]
    exact htraced.inbox

/-- Reading takes from the inbox only. -/
theorem Traced.hear (htraced : Traced server h) (c : Client) (now : Instant) (p : Pending) :
    Traced server (h.hear c now p).1 := by
  refine ⟨htraced.server_eq, htraced.tags, ?_⟩
  intro a ha
  exact htraced.inbox a ((rest_sublist p.tag now h.network.inbox).mem ha)

/-- A command that goes out under the next tag. -/
private theorem Traced.post (htraced : Traced server h) {line : Text}
    (hline : (CommandLine.splitTag line).2 = some h.tag)
    (hnetwork : h'.network = (h.network.post now line h.tag).1)
    (hnext : h'.nextTag = h.nextTag + 1) : Traced server h' := by
  have hlines : h'.lines = h.lines ++ [line] := by
    unfold lines
    rw [hnetwork, sent_post, List.map_append, List.map_singleton]
  obtain ⟨numbers, hgrow, hbound, htags⟩ := htraced.tags
  refine ⟨?_, ⟨numbers ++ [h.nextTag], ?_, ?_, ?_⟩, ?_⟩
  · rw [hlines, Server.after_concat, hnetwork, Network.server_post, htraced.server_eq]
  · rw [List.pairwise_append]
    refine ⟨hgrow, List.pairwise_singleton _ _, ?_⟩
    intro m hm n hn
    obtain rfl := List.mem_singleton.1 hn
    exact hbound m hm
  · intro n hn
    rw [hnext]
    rw [List.mem_append, List.mem_singleton] at hn
    rcases hn with hn | rfl
    · exact Nat.lt_succ_of_lt (hbound n hn)
    · exact Nat.lt_succ_self _
  · rw [hlines, List.map_append, List.map_append, htags, List.map_singleton, List.map_singleton,
      hline]
    rfl
  · intro a ha
    rw [hlines]
    rw [hnetwork] at ha
    rcases Network.mem_post ha with hmem | ⟨sendings, s, hreact, hs, hd⟩
    · obtain ⟨k, hsends⟩ := htraced.inbox a hmem
      exact ⟨k, hsends.append [line]⟩
    · refine ⟨h.lines.length, line, h.tag, sendings, s, ?_, hline, ?_, hs, hd⟩
      · exact List.getElem?_concat_length
      · rw [List.take_left, ← htraced.server_eq]
        exact hreact

/-- Whether or not the next command can be sent, its tag is used up. -/
theorem Traced.issue (htraced : Traced server h) (now : Instant) (r : Request)
    (key : Option Text) : Traced server (h.issue now r key).1 := by
  have hnetwork := network_issue now h r key
  have hnext := nextTag_issue now h r key
  split at hnetwork
  · exact htraced.post (splitTag_tagOf r key h.nextTag) hnetwork hnext
  · have hlines : (h.issue now r key).1.lines = h.lines := by
      unfold lines
      rw [hnetwork]
    obtain ⟨numbers, hgrow, hbound, htags⟩ := htraced.tags
    refine ⟨?_, ⟨numbers, hgrow, ?_, ?_⟩, ?_⟩
    · rw [hlines, hnetwork]
      exact htraced.server_eq
    · rw [hnext]
      exact fun n hn => Nat.lt_succ_of_lt (hbound n hn)
    · rw [hlines]
      exact htags
    · rw [hlines, hnetwork]
      exact htraced.inbox

theorem Heeds.traced {p : Pending} {turn : Handler × Turn Pending (Except Error Success)}
    (hheed : Heeds c now h p turn) (htraced : Traced server h) : Traced server turn.1 := by
  have hheard := htraced.hear c now p
  cases hheed with
  | waits hhear =>
    rw [hhear] at hheard
    exact hheard
  | @ends h' r hhear =>
    rw [hhear] at hheard
    exact (sameWire_conclude c now h' p.call p.held r).traced hheard

theorem Enters.traced {call : Call} {turn : Handler × Turn Pending (Except Error Success)}
    (henter : Enters c now h call turn) (htraced : Traced server h) : Traced server turn.1 := by
  cases henter with
  | refused hrefuse => exact hrefuse.sameWire.traced htraced
  | @unsent key held h' h'' e hadmits hissue =>
    have hissued := (hadmits.sameWire.traced htraced).issue now (call.request c) key
    rw [hissue] at hissued
    exact (sameWire_conclude c now h'' call held (.error e)).traced hissued
  | @sent key held h' h'' t turn hadmits hissue hheed =>
    have hissued := (hadmits.sameWire.traced htraced).issue now (call.request c) key
    rw [hissue] at hissued
    exact hheed.traced hissued

theorem keeps_traced (c : Client) (server : Server) :
    (service c).Keeps fun _ _ h => Traced server h where
  later _ htraced := htraced
  arrive call htraced := (sameWire_arrive c _ _ call).traced htraced
  enter call htraced := (enters_enter c _ _ call).traced htraced
  resume htraced := (heeds_resume c _ _ _).traced htraced
  abandon htraced := (sameWire_abandon _ _).traced htraced

/-- Every command has a tag of its own. -/
theorem Traced.exists_tags (htraced : Traced server h) :
    ∃ tags : List Text, tags.Nodup ∧
      h.lines.map (fun line => (CommandLine.splitTag line).2) = tags.map some := by
  obtain ⟨numbers, hgrow, _, htags⟩ := htraced.tags
  have hnodup : numbers.Nodup := hgrow.imp fun hlt => Nat.ne_of_lt hlt
  refine ⟨numbers.map tagOf, ?_, ?_⟩
  · apply List.pairwise_map.2
    exact hnodup.imp fun hne heq => hne (tagOf_injective heq)
  · rw [htags, List.map_map]
    rfl

/-- The tag of a command is one that the client gives. -/
theorem Traced.exists_tagOf (htraced : Traced server h) {i : Nat} {line : Text}
    (hline : h.lines[i]? = some line) :
    ∃ n, (CommandLine.splitTag line).2 = some (tagOf n) := by
  obtain ⟨numbers, _, _, htags⟩ := htraced.tags
  have hmem : (CommandLine.splitTag line).2 ∈
      h.lines.map fun line => (CommandLine.splitTag line).2 :=
    List.mem_map_of_mem (List.mem_of_getElem? hline)
  rw [htags] at hmem
  obtain ⟨n, _, heq⟩ := List.mem_map.1 hmem
  exact ⟨n, heq.symm⟩

/-- Two commands with one tag are one command. -/
theorem Traced.eq_of_tag (htraced : Traced server h) {i j : Nat} {first second tag : Text}
    (hi : h.lines[i]? = some first) (hj : h.lines[j]? = some second)
    (hfirst : (CommandLine.splitTag first).2 = some tag)
    (hsecond : (CommandLine.splitTag second).2 = some tag) : i = j := by
  have hi' : (h.lines.map fun line => (CommandLine.splitTag line).2)[i]? = some (some tag) := by
    rw [List.getElem?_map, hi, Option.map_some, hfirst]
  have hj' : (h.lines.map fun line => (CommandLine.splitTag line).2)[j]? = some (some tag) := by
    rw [List.getElem?_map, hj, Option.map_some, hsecond]
  obtain ⟨tags, hnodup, htags⟩ := htraced.exists_tags
  have hall : (tags.map some).Nodup := by
    apply List.pairwise_map.2
    exact hnodup.imp fun hne heq => hne (Option.some.inj heq)
  rw [htags] at hi' hj'
  exact (List.getElem?_inj (List.getElem?_eq_some_iff.1 hi').1 hall).1 (hi'.trans hj'.symm)

/-- What an honest server sends for a command is read as a reply with the tag of that command. -/
theorem exists_read_of_isReplyTo {d : Delivery} {n : Nat} (hd : d.IsReplyTo (tagOf n)) :
    ∃ reply, d.read = .ok reply ∧ reply.tag = some (tagOf n) := by
  obtain ⟨code, body, rfl, hcode, hbody, hlength⟩ := hd
  obtain ⟨number, hnumber⟩ := Option.isSome_iff_exists.1 hcode
  obtain ⟨reply, hdatagram, htag, _⟩ := Reply.exists_ofDatagram (isTag_tagOf n) hnumber hbody
  refine ⟨reply, ?_, htag⟩
  unfold Delivery.read
  dsimp only
  rw [List.take_of_length_le hlength, hdatagram]
  rfl

/-- What an honest server sends can be read. -/
theorem Traced.exists_read (htraced : Traced server h) {i : Nat} {d : Delivery}
    (hanswer : Server.Answers h.lines i d) :
    ∃ reply, d.read = .ok reply ∧
      ∃ line, h.lines[i]? = some line ∧ (CommandLine.splitTag line).2 = reply.tag := by
  obtain ⟨line, tag, hline, htag, hd⟩ := hanswer
  obtain ⟨n, hn⟩ := htraced.exists_tagOf hline
  obtain rfl : tagOf n = tag := Option.some.inj (hn.symm.trans htag)
  obtain ⟨reply, hread, hreply⟩ := exists_read_of_isReplyTo hd
  exact ⟨reply, hread, line, hline, htag.trans hreply.symm⟩

/-- Over an honest server an error that was read tells of no reply. -/
theorem Traced.isUnanswered (htraced : Traced server h) (hhonest : server.HonestOn h.lines)
    {a : Arrival} {e : Error} (ha : a ∈ h.network.inbox) (hread : a.delivery.read = .error e) :
    e.isUnanswered = true := by
  obtain ⟨k, hsends⟩ := htraced.inbox a ha
  rcases hhonest k a.delivery hsends with ⟨reason, hfailure⟩ | ⟨i, _, hanswer⟩
  · rw [hfailure] at hread
    obtain rfl := Except.error.inj hread
    rfl
  · obtain ⟨reply, hok, _⟩ := htraced.exists_read hanswer
    rw [hread] at hok
    cases hok

/-- A reply that has the tag of a command answers that command. -/
theorem Traced.answered (htraced : Traced server h) (hhonest : server.HonestOn h.lines) {i : Nat}
    {line tag : Text} (hline : h.lines[i]? = some line)
    (htag : (CommandLine.splitTag line).2 = some tag) {a : Arrival} {reply : Reply}
    (ha : a ∈ h.network.inbox) (hread : a.delivery.read = .ok reply)
    (hanswers : reply.answers tag = true) : server.Replies h.lines i reply := by
  obtain ⟨k, hsends⟩ := htraced.inbox a ha
  rcases hhonest k a.delivery hsends with ⟨reason, hfailure⟩ | ⟨j, hjk, hanswer⟩
  · rw [hfailure] at hread
    cases hread
  · obtain ⟨reply', hread', line', hline', htag'⟩ := htraced.exists_read hanswer
    obtain rfl : reply' = reply := Except.ok.inj (hread'.symm.trans hread)
    obtain ⟨n, hn⟩ := htraced.exists_tagOf hline'
    have hreply : reply'.tag = some (tagOf n) := htag'.symm.trans hn
    have hsame : tagOf n = tag := by
      unfold Reply.answers at hanswers
      rw [hreply] at hanswers
      simpa using hanswers
    obtain rfl : j = i := htraced.eq_of_tag hline' hline hn (hsame ▸ htag)
    exact ⟨k, a.delivery, hjk, hsends, hanswer, hread⟩

end Traced

end Handler

namespace Session

/-- Handlers always know where everything comes from. -/
theorem traced_after (c : Client) (l : Limits) (server : Server) (events : List (Event Call)) :
    Handler.Traced server (after c l server events).state := by
  exact (Handler.keeps_traced c server).run (Turnstile.orderly_opened _)
    (Handler.traced_opened server) events

end Session

end AnidbClient
