import ServiceCall.Http.Network
import ServiceCall.Proofs.Endings
import ServiceCall.Url.Resolve

/-!
# Answers that point elsewhere

For one request one message is sent, unless the server answers that what was asked for is found
elsewhere and the library that sends messages asks there. Then the answer that is reported is one to
a message that nobody handed in. This file says exactly when that happens and what is sent then, and
that in all other cases the answer to the one message is what is reported.

## What is relied upon

How answers are followed is up to the library. It is enough to know how often it does so at most,
that it reports answers which point nowhere, what becomes of a method and a body on the way, and
that a path on the same server is followed (`Redirection.FollowsLocations`). There are libraries of
this kind (`Redirection.usual_followsLocations`).

## One course

The messages are those that a record over the transport shows (`watched`). What is delivered on the
way from the first message to the outcome is said once, as a relation (`Course`), and every fact
about it is proved by induction on that relation.
-/

namespace ServiceCall

namespace Http

/-- A message with the answer of its server, if that could be reached. -/
structure Delivery where
  message : Message
  answer : Option Answer
  deriving DecidableEq

/-! ## Where an answer points -/

/-- The statuses by which a server says that what was asked for is found elsewhere. -/
def redirecting : List UInt16 := [301, 302, 303, 307, 308]

/-- The answer is of a status that points elsewhere, and says where. -/
def Answer.PointsElsewhere (a : Answer) : Prop :=
  a.status ∈ redirecting ∧ a.location.isSome = true

/-- A path from the root of a server, in which nothing has to be escaped. -/
def isAbsolutePath (location : String) : Bool :=
  match location.toList with
  | '/' :: rest =>
    rest.head? ≠ some '/' && rest.all fun c ↦ c.isAlphanum || "-._~/".toList.contains c
  | _ => false

/-- The answer to the message points to this address, by its path on the same server. -/
structure PointsTo (m : Message) (a : Answer) (url : Url) : Prop where
  status : a.status ∈ redirecting
  location : ∃ path, a.location = some path ∧ isAbsolutePath path = true ∧
    Url.resolve? m.url path = some url
  isWebAddress : Network.isWebAddress url = true

/-- The second message asks where the answer to the first one points. What is to be made is only
asked for there, without its content, unless the answer calls for the same again. -/
structure LedOn (m : Message) (a : Answer) (m' : Message) : Prop where
  pointsElsewhere : a.PointsElsewhere
  plainly : m.method = .post → a.status ∈ [301, 302, 303] → m'.method = .get ∧ m'.body = none
  again : a.status ∈ [307, 308] → m'.method = m.method ∧ m'.body = m.body

theorem PointsTo.pointsElsewhere {m : Message} {a : Answer} {url : Url} (h : PointsTo m a url) :
    a.PointsElsewhere := by
  obtain ⟨path, hpath, -, -⟩ := h.location
  exact ⟨h.status, by rw [hpath, Option.isSome_some]⟩

/-! ## Libraries that follow answers -/

namespace Redirection

/-- What is relied upon of a library that follows answers: it does so up to ten times, only where an
answer points, and at least to a path on the same server. -/
structure FollowsLocations (r : Redirection) : Prop where
  limit_eq : r.limit = 10
  reports : ∀ m a, ¬ a.PointsElsewhere → r.react m a = .report
  follows : ∀ m a url, PointsTo m a url → ∃ m', r.react m a = .send m' ∧ m'.url = url
  plainly : ∀ m a m', r.react m a = .send m' → m.method = .post → a.status ∈ [301, 302, 303] →
    m'.method = .get ∧ m'.body = none
  again : ∀ m a m', r.react m a = .send m' → a.status ∈ [307, 308] →
    m'.method = m.method ∧ m'.body = m.body

theorem FollowsLocations.ledOn {r : Redirection} (h : r.FollowsLocations) {m m' : Message}
    {a : Answer} (hsend : r.react m a = .send m') : LedOn m a m' where
  pointsElsewhere := by
    refine Classical.byContradiction fun hnowhere ↦ ?_
    rw [h.reports m a hnowhere] at hsend
    cases hsend
  plainly := h.plainly m a m' hsend
  again := h.again m a m' hsend

/-! ### One library -/

/-- Headers that are meant for one server alone. -/
def secrets : List String :=
  ["authorization", "cookie", "cookie2", "proxy-authorization", "www-authenticate"]

/-- Headers that describe a body. -/
def bodyHeaders : List String :=
  ["content-type", "content-length", "content-encoding", "transfer-encoding"]

def without (names : List String) (headers : List (String × String)) : List (String × String) :=
  headers.filter fun h ↦ !names.contains h.1

/-- The port, also where it is the usual one and left out. -/
def knownPort (u : Url) : Option Nat := u.port.or (Url.usualPorts.lookup u.scheme)

/-- The headers of a message on its way to another address. They tell where it comes from, unless
that was under protection and this is not, and keep what is secret from other servers. -/
def keptHeaders (m : Message) (url : Url) : List (String × String) :=
  let told :=
    if m.url.scheme = "https" ∧ url.scheme = "http" then m.headers
    else without ["referer"] m.headers ++
      [("referer", { m.url.anonymous with fragment := none }.text)]
  if url.host = m.url.host ∧ knownPort url = knownPort m.url then told else without secrets told

/-- The message that goes to the other address. -/
def moved (m : Message) (a : Answer) (url : Url) : Message :=
  if a.status = 303 ∨ (m.method = .post ∧ a.status ∈ [301, 302]) then
    ⟨.get, url, without bodyHeaders (keptHeaders m url), none⟩
  else ⟨m.method, url, keptHeaders m url, m.body⟩

/-- Where the answer points. -/
def target? (m : Message) (a : Answer) : Option Url :=
  if a.status ∈ redirecting then a.location.bind (Url.resolve? m.url) else none

/-- A library that follows answers to all addresses of web servers. -/
def usual : Redirection where
  limit := 10
  react m a :=
    match target? m a with
    | none => .report
    | some url =>
      if url.scheme = "http" ∨ url.scheme = "https" then .send (moved m a url)
      else .fail (Network.noted "builder error" url)
  refuse? m a := (target? m a).map fun _ ↦ Network.noted "error following redirect" m.url

theorem usual_react_eq_send_iff {m m' : Message} {a : Answer} :
    usual.react m a = .send m' ↔ ∃ url, target? m a = some url ∧
      (url.scheme = "http" ∨ url.scheme = "https") ∧ moved m a url = m' := by
  dsimp only [usual]
  cases target? m a with
  | none => simp
  | some url =>
    by_cases hweb : url.scheme = "http" ∨ url.scheme = "https"
    · simp [hweb]
    · simp [hweb]

theorem target?_eq_none {m : Message} {a : Answer} (h : ¬ a.PointsElsewhere) :
    target? m a = none := by
  rw [target?]
  by_cases hstatus : a.status ∈ redirecting
  · have hlocation : a.location = none := by
      simpa [Answer.PointsElsewhere, hstatus] using h
    rw [if_pos hstatus, hlocation, Option.bind_none]
  · rw [if_neg hstatus]

theorem target?_of_pointsTo {m : Message} {a : Answer} {url : Url} (h : PointsTo m a url) :
    target? m a = some url := by
  obtain ⟨path, hpath, -, hurl⟩ := h.location
  rw [target?, if_pos h.status, hpath, Option.bind_some, hurl]

theorem usual_followsLocations : usual.FollowsLocations where
  limit_eq := rfl
  reports m a hnowhere := by
    dsimp only [usual]
    rw [target?_eq_none hnowhere]
  follows m a url hpoints := by
    have hscheme : url.scheme = "http" ∨ url.scheme = "https" := by
      have hweb := hpoints.isWebAddress
      simp only [Network.isWebAddress, Bool.and_eq_true, Bool.or_eq_true, decide_eq_true_eq] at hweb
      exact hweb.1.1
    refine ⟨moved m a url, usual_react_eq_send_iff.2
      ⟨url, target?_of_pointsTo hpoints, hscheme, rfl⟩, ?_⟩
    rw [moved]
    split <;> rfl
  plainly m a m' hsend hpost hstatus := by
    obtain ⟨url, -, -, rfl⟩ := usual_react_eq_send_iff.1 hsend
    have hplain : a.status = 303 ∨ (m.method = .post ∧ a.status ∈ [301, 302]) := by
      simp only [List.mem_cons, List.not_mem_nil, or_false] at hstatus ⊢
      rcases hstatus with hstatus | hstatus | hstatus
      · exact .inr ⟨hpost, .inl hstatus⟩
      · exact .inr ⟨hpost, .inr hstatus⟩
      · exact .inl hstatus
    rw [moved, if_pos hplain]
    exact ⟨rfl, rfl⟩
  again m a m' hsend hstatus := by
    obtain ⟨url, -, -, rfl⟩ := usual_react_eq_send_iff.1 hsend
    have hother : ¬ (a.status = 303 ∨ (m.method = .post ∧ a.status ∈ [301, 302])) := by
      simp only [List.mem_cons, List.not_mem_nil, or_false] at hstatus
      rcases hstatus with hstatus | hstatus <;> simp [hstatus]
    rw [moved, if_neg hother]
    exact ⟨rfl, rfl⟩

/-- Only web servers are asked, and what is secret does not go to another port. -/
example :
    let m : Message := ⟨.get, { scheme := "https", host := some "a.test", path := .segments ["x"] },
      [("authorization", "Bearer t")], none⟩
    usual.react m ⟨302, some "mailto:b@a.test", none⟩
        = .fail ⟨"builder error for url (mailto:b@a.test)", none⟩ ∧
      usual.react m ⟨302, some "http://a.test/y", none⟩
        = .send ⟨.get, { scheme := "http", host := some "a.test", path := .segments ["y"] }, [],
          none⟩ := by
  decide +kernel

end Redirection

namespace Network

/-! ## Following a message -/

variable {σ : Type} {transport : Transport σ} {left : Nat} {m m' : Message} {a : Answer} {s s' : σ}

/-- The transport, with a record of what is delivered. -/
def watched (transport : Transport σ) : Transport (σ × List Delivery) where
  deliver m s := ((transport.deliver m s.1).1,
    ((transport.deliver m s.1).2, s.2 ++ [⟨m, (transport.deliver m s.1).1⟩]))
  redirection := transport.redirection

/-- The answer settles the request, which may be led on as many times as are left. -/
inductive Settles (r : Redirection) (m : Message) (a : Answer) : (left : Nat) → Outcome → Prop
  | reported {left : Nat} (h : r.react m a = .report) : Settles r m a (left + 1) (conclude a)
  | failed {left : Nat} {failure : TransportFailure} (h : r.react m a = .fail failure) :
    Settles r m a (left + 1) (.error failure)
  | halted : Settles r m a 0 ((r.refuse? m a).elim (conclude a) .error)

theorem follow_of_unreached (h : transport.deliver m s = (none, s')) :
    follow transport left m s = (.error (noted "error sending request" m.url), s') := by
  unfold follow
  change StateT.bind (transport.deliver m) _ s = _
  rw [StateT.bind, h]
  rfl

theorem follow_of_settled {outcome : Outcome} (h : transport.deliver m s = (some a, s'))
    (hlast : Settles transport.redirection m a left outcome) :
    follow transport left m s = (outcome, s') := by
  unfold follow
  change StateT.bind (transport.deliver m) _ s = _
  rw [StateT.bind, h]
  cases hlast with
  | reported hreact | failed hreact =>
    dsimp only [bind]
    rw [hreact]
    rfl
  | halted => rfl

theorem follow_of_sent (h : transport.deliver m s = (some a, s'))
    (hnext : transport.redirection.react m a = .send m') :
    follow transport (left + 1) m s = follow transport left m' s' := by
  rw [follow]
  change StateT.bind (transport.deliver m) _ s = _
  rw [StateT.bind, h]
  dsimp only [bind]
  rw [hnext]

/-- How a message is followed: what is delivered on the way from one state to the other, and the
outcome. -/
inductive Course (transport : Transport σ) :
    (left : Nat) → Message → σ → List Delivery → Outcome → σ → Prop
  | unreached {left : Nat} {m : Message} {s s' : σ} (h : transport.deliver m s = (none, s')) :
    Course transport left m s [⟨m, none⟩] (.error (noted "error sending request" m.url)) s'
  | settled {left : Nat} {m : Message} {s s' : σ} {a : Answer} {outcome : Outcome}
    (h : transport.deliver m s = (some a, s'))
    (hlast : Settles transport.redirection m a left outcome) :
    Course transport left m s [⟨m, some a⟩] outcome s'
  | sent {left : Nat} {m m' : Message} {s s' s'' : σ} {a : Answer} {ds : List Delivery}
    {outcome : Outcome} (h : transport.deliver m s = (some a, s'))
    (hnext : transport.redirection.react m a = .send m')
    (hrest : Course transport left m' s' ds outcome s'') :
    Course transport (left + 1) m s (⟨m, some a⟩ :: ds) outcome s''

theorem settles_or_exists_send (r : Redirection) (m : Message) (a : Answer) (left : Nat) :
    (∃ outcome, Settles r m a left outcome) ∨
      ∃ left' m', left = left' + 1 ∧ r.react m a = .send m' := by
  cases left with
  | zero => exact .inl ⟨_, .halted⟩
  | succ left =>
    cases hreact : r.react m a with
    | report => exact .inl ⟨_, .reported hreact⟩
    | fail failure => exact .inl ⟨_, .failed hreact⟩
    | send m' => exact .inr ⟨left, m', rfl, rfl⟩

theorem exists_course (transport : Transport σ) (left : Nat) (m : Message) (s : σ) :
    ∃ ds outcome s', follow transport left m s = (outcome, s') ∧
      (∀ log, follow (watched transport) left m (s, log) = (outcome, s', log ++ ds)) ∧
      Course transport left m s ds outcome s' := by
  induction left using Nat.strongRecOn generalizing m s with
  | ind left ih =>
    have hwatched {answer : Option Answer} {s' : σ} (h : transport.deliver m s = (answer, s'))
        (log : List Delivery) :
        (watched transport).deliver m (s, log) = (answer, s', log ++ [⟨m, answer⟩]) := by
      dsimp only [watched]
      rw [h]
    rcases h : transport.deliver m s with ⟨_ | a, s'⟩
    · exact ⟨_, _, _, follow_of_unreached h, fun log ↦ follow_of_unreached (hwatched h log),
        .unreached h⟩
    · rcases settles_or_exists_send transport.redirection m a left with
        ⟨outcome, hlast⟩ | ⟨left, m', rfl, hnext⟩
      · exact ⟨_, _, _, follow_of_settled h hlast,
          fun log ↦ follow_of_settled (hwatched h log) hlast, .settled h hlast⟩
      · obtain ⟨ds, outcome, s'', hplain, hrest, hcourse⟩ := ih left (Nat.lt_succ_self left) m' s'
        refine ⟨_, outcome, s'', (follow_of_sent h hnext).trans hplain, fun log ↦ ?_,
          .sent h hnext hcourse⟩
        rw [follow_of_sent (hwatched h log) hnext, hrest, List.append_assoc]
        rfl

namespace Course

variable {ds : List Delivery} {outcome : Outcome}

theorem length_le (h : Course transport left m s ds outcome s') : ds.length ≤ left + 1 := by
  induction h with
  | unreached h => exact Nat.succ_le_succ (Nat.zero_le _)
  | settled h hlast => exact Nat.succ_le_succ (Nat.zero_le _)
  | sent h hnext hrest ih => exact Nat.succ_le_succ ih

theorem eq_cons (h : Course transport left m s ds outcome s') :
    ∃ rest, ds = ⟨m, (transport.deliver m s).1⟩ :: rest := by
  cases h with
  | unreached h => exact ⟨[], by rw [h]⟩
  | settled h hlast => exact ⟨[], by rw [h]⟩
  | sent h hnext hrest => exact ⟨_, by rw [h]⟩

/-- Each message after the first is the one that the answer before leads to. -/
theorem isChain (h : Course transport left m s ds outcome s') :
    ds.IsChain fun d d' ↦ ∃ a, d.answer = some a ∧
      transport.redirection.react d.message a = .send d'.message := by
  induction h with
  | unreached h => exact .singleton _
  | settled h hlast => exact .singleton _
  | sent h hnext hrest ih =>
    obtain ⟨rest, rfl⟩ := hrest.eq_cons
    exact .cons_cons ⟨_, rfl, hnext⟩ ih

/-- A message that does not arrive is the last one. -/
theorem eq_of_unreached (h : Course transport left m s ds outcome s')
    (hnone : (transport.deliver m s).1 = none) :
    ds = [⟨m, none⟩] ∧ outcome = .error (noted "error sending request" m.url) := by
  cases h with
  | unreached h => exact ⟨rfl, rfl⟩
  | settled h hlast =>
    rw [h] at hnone
    cases hnone
  | sent h hnext hrest =>
    rw [h] at hnone
    cases hnone

/-- An answer that settles the request is the last one. -/
theorem eq_of_settled (h : Course transport left m s ds outcome s')
    (hsome : (transport.deliver m s).1 = some a)
    (hlast : ∀ m', transport.redirection.react m a ≠ .send m') :
    ds = [⟨m, some a⟩] ∧ Settles transport.redirection m a left outcome := by
  cases h with
  | unreached h =>
    rw [h] at hsome
    cases hsome
  | settled h hsettles =>
    rw [h] at hsome
    cases hsome
    exact ⟨rfl, hsettles⟩
  | sent h hnext hrest =>
    rw [h] at hsome
    cases hsome
    exact absurd hnext (hlast _)

/-- An answer that leads on is followed by the message that it leads to. -/
theorem eq_of_sent (h : Course transport (left + 1) m s ds outcome s')
    (hsome : (transport.deliver m s).1 = some a)
    (hnext : transport.redirection.react m a = .send m') :
    ∃ answer rest, ds = ⟨m, some a⟩ :: ⟨m', answer⟩ :: rest := by
  cases h with
  | unreached h =>
    rw [h] at hsome
    cases hsome
  | settled h hsettles =>
    rw [h] at hsome
    cases hsome
    cases hsettles with
    | reported hreact => cases hnext.symm.trans hreact
    | failed hreact => cases hnext.symm.trans hreact
  | sent h hnext' hrest =>
    rw [h] at hsome
    cases hsome
    cases hnext.symm.trans hnext'
    obtain ⟨rest, rfl⟩ := hrest.eq_cons
    exact ⟨_, rest, rfl⟩

/-- Others follow the first message exactly when its answer leads on. -/
theorem length_eq_one_iff (h : Course transport (left + 1) m s ds outcome s') :
    ds.length = 1 ↔ ∀ a, (transport.deliver m s).1 = some a →
      ∀ m', transport.redirection.react m a ≠ .send m' := by
  constructor
  · intro hone a hsome m' hnext
    obtain ⟨answer, rest, rfl⟩ := h.eq_of_sent hsome hnext
    cases hone
  · intro hlast
    cases hanswer : (transport.deliver m s).1 with
    | none =>
      rw [(h.eq_of_unreached hanswer).1]
      rfl
    | some a =>
      rw [(h.eq_of_settled hanswer (hlast a hanswer)).1]
      rfl

end Course

/-- What is delivered for a message, and the outcome that is reported for it. -/
structure Sent (transport : Transport σ) (m : Message) (s : σ) (ds : List Delivery)
    (outcome : Outcome) : Prop where
  first : ds.head? = some ⟨m, (transport.deliver m s).1⟩
  one_iff : ds.length = 1 ↔ ∀ a, (transport.deliver m s).1 = some a →
    ∀ m', transport.redirection.react m a ≠ .send m'
  isChain : ds.IsChain fun d d' ↦ ∃ a, d.answer = some a ∧
    transport.redirection.react d.message a = .send d'.message ∧ LedOn d.message a d'.message
  length_le : ds.length ≤ 11
  unreached : (transport.deliver m s).1 = none →
    outcome = .error (noted "error sending request" m.url)
  answered : ∀ a, (transport.deliver m s).1 = some a → ¬ a.PointsElsewhere →
    ds = [⟨m, some a⟩] ∧ outcome = conclude a
  ledOn : ∀ a url, (transport.deliver m s).1 = some a → PointsTo m a url →
    ∃ m' answer rest, ds = ⟨m, some a⟩ :: ⟨m', answer⟩ :: rest ∧ m'.url = url ∧ LedOn m a m'

theorem Course.sent_of_followsLocations {ds : List Delivery} {outcome : Outcome}
    (hr : transport.redirection.FollowsLocations)
    (h : Course transport transport.redirection.limit m s ds outcome s') :
    Sent transport m s ds outcome := by
  rw [hr.limit_eq] at h
  refine ⟨?_, h.length_eq_one_iff, ?_, h.length_le, fun hnone ↦ (h.eq_of_unreached hnone).2,
    ?_, ?_⟩
  · obtain ⟨rest, rfl⟩ := h.eq_cons
    rfl
  · exact h.isChain.imp fun d d' ⟨a, ha, hnext⟩ ↦ ⟨a, ha, hnext, hr.ledOn hnext⟩
  · intro a hsome hnowhere
    have hreport := hr.reports m a hnowhere
    obtain ⟨hds, hsettles⟩ := h.eq_of_settled hsome fun m' hnext ↦ by
      cases hreport.symm.trans hnext
    refine ⟨hds, ?_⟩
    cases hsettles with
    | reported hreact => rfl
    | failed hreact => cases hreport.symm.trans hreact
  · intro a url hsome hpoints
    obtain ⟨m', hnext, hurl⟩ := hr.follows m a url hpoints
    obtain ⟨answer, rest, hds⟩ := h.eq_of_sent hsome hnext
    exact ⟨m', answer, rest, hds, hurl, hr.ledOn hnext⟩

/-! ## One request -/

variable {userAgent : Option String} {r : Request}

theorem method_body_of_message (h : message userAgent r = .ok m) :
    m.method = r.method ∧ m.body = (content r.content).map Prod.fst := by
  rw [message] at h
  split at h
  · cases h
  · split at h
    · cases h
    · dsimp only at h
      split at h
      · cases h
      · split at h
        · cases h
        · cases h
          exact ⟨rfl, rfl⟩

theorem client_of_message (h : message userAgent r = .ok m) :
    client userAgent transport r = follow transport transport.redirection.limit m := by
  rw [client, h]

end Network

end Http

open Http
open Http.Network (Sent content message watched)

/-- A failure stays one, with its status, whether its content arrives or breaks off. -/
theorem Handling.conclude_of_not_isSuccess {h : Handling} {a : Answer}
    (hstatus : isSuccess a.status = false) :
    (h.conclude (Network.conclude a)).isError = true ∧
      (h.conclude (Network.conclude a)).status = some a.status := by
  rw [Network.conclude]
  cases a.body with
  | none => exact ⟨Envelope.isError_failure .., rfl⟩
  | some body =>
    have hunusable : (⟨a.status, body⟩ : Response).isUsable = false := by
      rw [Response.isUsable, Response.isOk, hstatus, Bool.false_and]
    exact ⟨(h.isError_concludeResponse _).2 (.inl hunusable), h.status_concludeResponse _⟩

/-- **One message, unless its answer leads on.** A request that can be sent becomes a message of its
own method and body, which is delivered first. Others follow it exactly when the library makes
another message of its answer; that takes an answer which points elsewhere, and happens if this is a
path on the same server. Each further message is what the answer before it leads to, and with the
first there are at most eleven. If the first answer points nowhere, it is the outcome, and if it is
no success, the envelope is an error of its status. -/
theorem one_message_unless_redirected {σ : Type} {transport : Transport σ}
    (hr : transport.redirection.FollowsLocations) {userAgent : Option String} {r : Request}
    {m : Message} (hm : message userAgent r = .ok m) (s : σ) :
    (m.method = r.method ∧ m.body = (content r.content).map Prod.fst) ∧
      (∃ ds outcome s', Network.client userAgent transport r s = (outcome, s') ∧
        Network.client userAgent (watched transport) r (s, []) = (outcome, s', ds) ∧
        Sent transport m s ds outcome) ∧
      ∀ (h : Handling) (a : Answer), (transport.deliver m s).1 = some a → ¬ a.PointsElsewhere →
        isSuccess a.status = false →
        (h.execute (Network.client userAgent transport) r s).1.isError = true ∧
          (h.execute (Network.client userAgent transport) r s).1.status = some a.status := by
  obtain ⟨ds, outcome, s', hplain, hwatched, hcourse⟩ :=
    Network.exists_course transport transport.redirection.limit m s
  have hsent := hcourse.sent_of_followsLocations hr
  refine ⟨Network.method_body_of_message hm, ⟨ds, outcome, s', ?_, ?_, hsent⟩, ?_⟩
  · rw [Network.client_of_message hm, hplain]
  · rw [Network.client_of_message hm]
    exact hwatched []
  · intro h a hfirst hnowhere hstatus
    rw [Handling.execute_eq, Network.client_of_message hm, hplain,
      (hsent.answered a hfirst hnowhere).2]
    exact Handling.conclude_of_not_isSuccess hstatus

/-- Servers that give these answers, in this order, and a library that follows them. -/
def answering (r : Redirection) : Transport (List Answer) where
  deliver _ answers := (answers.head?, answers.tail)
  redirection := r

/-- Something is to be made. -/
def creation : Request where
  method := .post
  url := "https://api.example.com/a"
  headers := []
  params := []
  content := .json (.object [("x", .num (.int 1))])
  timeout := 30

def creationMessage : Message where
  method := .post
  url := { scheme := "https", host := some "api.example.com", path := .segments ["a"] }
  headers := [("content-type", "application/json"), ("accept", "*/*")]
  body := some "\x7b\"x\":1\x7d"

theorem message_creation : message none creation = .ok creationMessage := by decide +kernel

/-- The answer says that it is made elsewhere. -/
def doneAnswer : Answer := ⟨302, some "/done", some ""⟩

def doneAddress : Url := { creationMessage.url with path := .segments ["done"] }

theorem pointsTo_doneAddress : PointsTo creationMessage doneAnswer doneAddress where
  status := by decide
  location := ⟨"/done", rfl, by decide +kernel, by decide +kernel⟩
  isWebAddress := by decide +kernel

/-- A status that points elsewhere is a failure like any other if the answer does not say where. If
it does, the usual library asks there, and tells where it comes from. -/
theorem creation_ends_where_nothing_is_said :
    let nowhere : Answer := ⟨302, none, some "\x7b\x7d"⟩
    let transport := answering .usual
    transport.redirection.FollowsLocations ∧ message none creation = .ok creationMessage ∧
      (∃ ds outcome s',
        Network.client none transport creation [nowhere] = (outcome, s') ∧
        Network.client none (watched transport) creation ([nowhere], []) = (outcome, s', ds) ∧
        Sent transport creationMessage [nowhere] ds outcome ∧
        ds = [⟨creationMessage, some nowhere⟩]) ∧
      ((Handling.ofService "Service").execute (Network.client none transport) creation
        [nowhere]).1.status = some 302 ∧
      ∃ ds outcome s',
        Network.client none (watched transport) creation ([doneAnswer], []) = (outcome, s', ds) ∧
        Sent transport creationMessage [doneAnswer] ds outcome ∧
        ds = [⟨creationMessage, some doneAnswer⟩,
          ⟨⟨.get, doneAddress, [("accept", "*/*"), ("referer", "https://api.example.com/a")], none⟩,
            none⟩] := by
  have hr : (answering .usual).redirection.FollowsLocations := Redirection.usual_followsLocations
  have hnowhere : ¬ Answer.PointsElsewhere ⟨302, none, some "\x7b\x7d"⟩ := by
    rintro ⟨-, hlocation⟩
    cases hlocation
  obtain ⟨-, ⟨ds, outcome, s', hplain, hwatched, hsent⟩, hfailure⟩ :=
    one_message_unless_redirected hr message_creation [⟨302, none, some "\x7b\x7d"⟩]
  obtain ⟨-, ⟨ds', outcome', s'', -, hwatched', hsent'⟩, -⟩ :=
    one_message_unless_redirected hr message_creation [doneAnswer]
  refine ⟨hr, message_creation, ⟨ds, outcome, s', hplain, hwatched, hsent,
    (hsent.answered _ rfl hnowhere).1⟩,
    (hfailure (.ofService "Service") _ rfl hnowhere (by decide)).2,
    ds', outcome', s'', hwatched', hsent', ?_⟩
  have hseen : (Network.client none (watched (answering .usual)) creation ([doneAnswer], [])).2.2
      = [⟨creationMessage, some doneAnswer⟩,
        ⟨⟨.get, doneAddress, [("accept", "*/*"), ("referer", "https://api.example.com/a")], none⟩,
          none⟩] := by
    decide +kernel
  rw [hwatched'] at hseen
  exact hseen

/-- Whatever library it is that follows answers, what is to be made is handed over once, and asked
for elsewhere, without its content, after that; the answer to the second message is reported, as a
success. -/
theorem creation_is_asked_for_elsewhere :
    let answers : List Answer := [doneAnswer, ⟨200, none, some "\x7b\x7d"⟩]
    message none creation = .ok creationMessage ∧ Redirection.usual.FollowsLocations ∧
      ∀ r : Redirection, r.FollowsLocations →
        (∃ m', m'.method = .get ∧ m'.url = doneAddress ∧ m'.body = none ∧
          (Network.client none (watched (answering r)) creation (answers, [])).2.2
            = [⟨creationMessage, some doneAnswer⟩, ⟨m', some ⟨200, none, some "\x7b\x7d"⟩⟩]) ∧
        (Network.client none (answering r) creation answers).1 = .ok ⟨200, "\x7b\x7d"⟩ ∧
        ((Handling.ofService "Service").execute (Network.client none (answering r)) creation
          answers).1 = .ok (.object []) (some 200) ∧
        ((Handling.ofService "Service").execute (Network.client none (answering r)) creation
          answers).1.isError = false := by
  refine ⟨message_creation, Redirection.usual_followsLocations, fun r hr ↦ ?_⟩
  obtain ⟨m', hnext, hurl⟩ := hr.follows _ _ _ pointsTo_doneAddress
  obtain ⟨hmethod, hbody⟩ := hr.plainly _ _ _ hnext rfl (by decide)
  have hlast : r.react m' ⟨200, none, some "\x7b\x7d"⟩ = .report := by
    refine hr.reports _ _ ?_
    rintro ⟨hstatus, -⟩
    exact absurd hstatus (by decide)
  -- The first answer leads to the second message, and the answer to that is reported.
  have hclient {σ : Type} {transport : Transport σ} {s s' s'' : σ}
      (hredirection : transport.redirection = r)
      (hfirst : transport.deliver creationMessage s = (some doneAnswer, s'))
      (hsecond : transport.deliver m' s' = (some ⟨200, none, some "\x7b\x7d"⟩, s'')) :
      Network.client none transport creation s = (.ok ⟨200, "\x7b\x7d"⟩, s'') := by
    rw [← hredirection] at hnext hlast hr
    rw [Network.client_of_message message_creation, hr.limit_eq,
      Network.follow_of_sent hfirst hnext, Network.follow_of_settled hsecond (.reported hlast)]
    rfl
  have hplain : Network.client none (answering r) creation
      [doneAnswer, ⟨200, none, some "\x7b\x7d"⟩] = (.ok ⟨200, "\x7b\x7d"⟩, []) :=
    hclient rfl rfl rfl
  have hwatched : Network.client none (watched (answering r)) creation
      ([doneAnswer, ⟨200, none, some "\x7b\x7d"⟩], []) = (.ok ⟨200, "\x7b\x7d"⟩, [],
        [⟨creationMessage, some doneAnswer⟩, ⟨m', some ⟨200, none, some "\x7b\x7d"⟩⟩]) :=
    hclient rfl rfl rfl
  refine ⟨⟨m', hmethod, hurl, hbody, ?_⟩, ?_, ?_, ?_⟩
  · rw [hwatched]
  · rw [hplain]
  · rw [Handling.execute_eq, hplain]
    decide +kernel
  · rw [Handling.execute_eq, hplain]
    decide +kernel

end ServiceCall
