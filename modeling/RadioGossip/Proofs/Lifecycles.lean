import RadioGossip.Peer.Basic

/-!
# The life of a peer

What happens to a peer happens in any order. A dial may fail after a stream was bound, the loss of a
connection may be reported when another one has long taken its place, a send may end on a connection
that is gone, and the peer may be closed while a dial is under way.

Every such **move** does one of three things about the connection of the peer: it keeps the one there
is, it leaves the peer without one, or it binds a new one. Whatever is bound no longer was hung up. So
a peer is active exactly while a connection is bound, and of the connections that it was offered it
holds the one that was not hung up yet.
-/

namespace RadioGossip

/-- What may happen to a peer. -/
inductive PeerMove where
  /-- A frame is put into the outbox. -/
  | queue (data : Bytes)
  /-- The first frame is taken up, if none is being sent. -/
  | beginSend
  /-- A send on a connection ended. -/
  | finishSend (connection : ConnectionId) (outcome : Except LinkError Unit)
  /-- A dial begins, if the peer wants one. -/
  | beginConnect
  /-- A dial came to nothing. -/
  | dialFailed
  /-- A connection is offered, dialled or accepted. -/
  | setConnection (connection : ConnectionId)
  /-- A connection is reported as lost. -/
  | connectionLost (connection : ConnectionId)
  /-- The peer is closed. -/
  | close

namespace PeerMove

/-- The connection that a move offers to the peer. -/
def offers : PeerMove → List ConnectionId
  | setConnection connection => [connection]
  | _ => []

/-- The connections that some moves offer. -/
def offered (moves : List PeerMove) : List ConnectionId := moves.flatMap offers

/-- After these connections were offered the move may come: a connection that it offers is a new one,
and a send ends on one of those that were offered. -/
def IsTimely (offered : List ConnectionId) : PeerMove → Prop
  | setConnection connection => connection ∉ offered
  | finishSend connection _ => connection ∈ offered
  | _ => True

/-- Each of the moves may come when its turn is. -/
def AreTimely (offered : List ConnectionId) : List PeerMove → Prop
  | [] => True
  | move :: moves => move.IsTimely offered ∧ AreTimely (offered ++ move.offers) moves

end PeerMove

namespace Peer

/-- The peer after a move, and the connections that it hangs up. -/
def step (peer : Peer) : PeerMove → Peer × List ConnectionId
  | .queue data => (peer.queue data, [])
  | .beginSend => ((peer.beginSend?.map Prod.fst).getD peer, [])
  | .finishSend connection outcome => peer.finishSend connection outcome
  | .beginConnect => (peer.beginConnect.getD peer, [])
  | .dialFailed => (peer.dialFailed, [])
  | .setConnection connection => peer.setConnection connection
  | .connectionLost connection => peer.connectionLost connection
  | .close => peer.close

/-- The peer after a move. -/
def after (peer : Peer) (move : PeerMove) : Peer := (peer.step move).1

/-- The peer after some moves, the first of them first. -/
def afterAll (peer : Peer) (moves : List PeerMove) : Peer := moves.foldl Peer.after peer

/-- What a peer does along some moves, in order. -/
def along {α : Type} (does : Peer → PeerMove → List α) (peer : Peer) : List PeerMove → List α
  | [] => []
  | move :: moves => does peer move ++ (peer.after move).along does moves

/-- The connections that are hung up along some moves. -/
def hungUpBy (peer : Peer) (moves : List PeerMove) : List ConnectionId :=
  peer.along (fun peer move => (peer.step move).2) moves

/-! ## One move -/

variable {peer other after : Peer} {move : PeerMove} {connection : ConnectionId}
  {hungUp offered : List ConnectionId}

/-- What a move does about the connection of a peer, and what it hangs up by it. -/
inductive Relinks (peer : Peer) (move : PeerMove) (after : Peer) (hungUp : List ConnectionId) :
    Prop where
  /-- The peer keeps the connection that it has, if it has one. Of others a send may have ended. -/
  | kept (hconnection : after.connection = peer.connection)
      (hactive : after.state = .active ↔ peer.state = .active)
      (hclosed : after.closed = peer.closed) (hoffers : move.offers = [])
      (hhungUp : ∀ connection ∈ hungUp, peer.connection ≠ some connection ∧
        ∃ outcome, move = .finishSend connection outcome)
  /-- The peer is left without a connection. The one it had and the one it was offered are hung
  up. -/
  | unbound (hconnection : after.connection = none)
      (hstate : after.state = .disconnected ∨ after.state = peer.state ∧ peer.closed = true)
      (hhungUp : ∀ connection, connection ∈ hungUp ↔
        peer.connection = some connection ∨ connection ∈ move.offers)
  /-- The peer takes the connection that it was offered for the one it had. -/
  | rebound (connection : ConnectionId) (hmove : move = .setConnection connection)
      (hconnection : after.connection = some connection) (hactive : after.state = .active)
      (hopen : peer.closed = false) (hclosed : after.closed = false)
      (hhungUp : hungUp = peer.connection.toList)

/-- What has nothing to do with the connection keeps it. -/
theorem relinks_of_same (hconnection : after.connection = peer.connection)
    (hactive : after.state = .active ↔ peer.state = .active) (hclosed : after.closed = peer.closed)
    (hoffers : move.offers = []) : peer.Relinks move after [] :=
  .kept hconnection hactive hclosed hoffers nofun

/-- The outbox and the sends that failed do not matter. -/
theorem Relinks.congr (h : other.Relinks move after hungUp)
    (hconnection : other.connection = peer.connection) (hstate : other.state = peer.state)
    (hclosed : other.closed = peer.closed) : peer.Relinks move after hungUp := by
  cases h with
  | kept hconnection' hactive hclosed' hoffers hhungUp =>
    rw [hconnection] at hconnection' hhungUp
    rw [hstate] at hactive
    exact .kept hconnection' hactive (hclosed'.trans hclosed) hoffers hhungUp
  | unbound hconnection' hstate' hhungUp =>
    rw [hstate, hclosed] at hstate'
    rw [hconnection] at hhungUp
    exact .unbound hconnection' hstate' hhungUp
  | rebound connection hmove hconnection' hactive hopen hclosed' hhungUp =>
    rw [hclosed] at hopen
    rw [hconnection] at hhungUp
    exact .rebound connection hmove hconnection' hactive hopen hclosed' hhungUp

theorem relinks_connectionLost (hoffers : move.offers = []) (connection : ConnectionId) :
    peer.Relinks move (peer.connectionLost connection).1 (peer.connectionLost connection).2 := by
  rw [connectionLost]
  split
  · next hbound =>
    refine .unbound rfl (.inl rfl) fun other => ?_
    simp [hbound, hoffers, eq_comm]
  · exact relinks_of_same rfl Iff.rfl rfl hoffers

/-- A connection on which sending is no use any more is hung up, whether it is bound or not. -/
theorem relinks_connectionLost_hangUp {outcome : Except LinkError Unit}
    (hmove : move = .finishSend connection outcome) :
    peer.Relinks move (peer.connectionLost connection).1 [connection] := by
  have hoffers : move.offers = [] := by rw [hmove]; rfl
  rw [connectionLost]
  split
  · next hbound =>
    refine .unbound rfl (.inl rfl) fun other => ?_
    simp [hbound, hoffers, eq_comm]
  · next hstale =>
    refine .kept rfl Iff.rfl rfl hoffers fun other hother => ?_
    obtain rfl := List.mem_singleton.mp hother
    exact ⟨hstale, outcome, hmove⟩

theorem relinks_finishSend (peer : Peer) (connection : ConnectionId)
    (outcome : Except LinkError Unit) :
    peer.Relinks (.finishSend connection outcome) (peer.finishSend connection outcome).1
      (peer.finishSend connection outcome).2 := by
  simp only [finishSend]
  split
  · exact relinks_of_same rfl Iff.rfl rfl rfl
  · exact relinks_of_same rfl Iff.rfl rfl rfl
  · split
    · exact (relinks_connectionLost rfl connection).congr rfl rfl rfl
    · split
      · split
        · exact relinks_of_same rfl Iff.rfl rfl rfl
        · exact (relinks_connectionLost_hangUp rfl).congr rfl rfl rfl
      · exact (relinks_connectionLost_hangUp rfl).congr rfl rfl rfl

theorem relinks_setConnection (peer : Peer) (connection : ConnectionId) :
    peer.Relinks (.setConnection connection) (peer.setConnection connection).1
      (peer.setConnection connection).2 := by
  simp only [setConnection]
  split
  · next hclosed =>
    refine .unbound rfl (.inr ⟨rfl, hclosed⟩) fun other => ?_
    simp [PeerMove.offers]
  · next hopen =>
    exact .rebound connection rfl rfl rfl (Bool.eq_false_iff.mpr hopen)
      (Bool.eq_false_iff.mpr hopen) rfl

/-- **Every move** keeps the connection of a peer, leaves the peer without one, or binds a new
one. -/
theorem relinks_step (peer : Peer) (move : PeerMove) :
    peer.Relinks move (peer.step move).1 (peer.step move).2 := by
  cases move with
  | queue data => exact relinks_of_same rfl Iff.rfl rfl rfl
  | beginSend =>
    simp only [step, beginSend?]
    split <;> exact relinks_of_same rfl Iff.rfl rfl rfl
  | finishSend connection outcome => exact peer.relinks_finishSend connection outcome
  | beginConnect =>
    simp only [step, beginConnect]
    split
    · next hidle => exact relinks_of_same rfl (by simp [hidle]) rfl rfl
    · exact relinks_of_same rfl Iff.rfl rfl rfl
  | dialFailed =>
    simp only [step, dialFailed]
    split
    · next hdialling => exact relinks_of_same rfl (by simp [hdialling]) rfl rfl
    · exact relinks_of_same rfl Iff.rfl rfl rfl
  | setConnection connection => exact peer.relinks_setConnection connection
  | connectionLost connection => exact relinks_connectionLost rfl connection
  | close =>
    refine .unbound rfl (.inl rfl) fun connection => ?_
    simp [step, Peer.close, PeerMove.offers]

/-- What a move leaves alone: the peer stays the one it is, it is closed only for good and by the one
move for it, and but for the one move for it no dial begins. -/
structure Succeeds (peer : Peer) (move : PeerMove) (after : Peer) : Prop where
  id_eq : after.id = peer.id
  origin_eq : after.origin = peer.origin
  closed_iff : after.closed = true ↔ peer.closed = true ∨ move = .close
  dials : after.state = .connecting → peer.state = .connecting ∨ move = .beginConnect

theorem Succeeds.congr (h : other.Succeeds move after) (hid : other.id = peer.id)
    (horigin : other.origin = peer.origin) (hclosed : other.closed = peer.closed)
    (hstate : other.state = peer.state) : peer.Succeeds move after :=
  ⟨hid ▸ h.id_eq, horigin ▸ h.origin_eq, hclosed ▸ h.closed_iff, hstate ▸ h.dials⟩

theorem succeeds_connectionLost (hmove : move ≠ .close) (connection : ConnectionId) :
    peer.Succeeds move (peer.connectionLost connection).1 := by
  rw [connectionLost]
  split
  · exact ⟨rfl, rfl, by simp [hmove], nofun⟩
  · exact ⟨rfl, rfl, by simp [hmove], .inl⟩

theorem succeeds_finishSend (peer : Peer) (connection : ConnectionId)
    (outcome : Except LinkError Unit) :
    peer.Succeeds (.finishSend connection outcome) (peer.finishSend connection outcome).1 := by
  simp only [finishSend]
  split
  · exact ⟨rfl, rfl, by simp, .inl⟩
  · exact ⟨rfl, rfl, by simp, .inl⟩
  · split
    · exact (succeeds_connectionLost (by simp) connection).congr rfl rfl rfl rfl
    · split
      · split
        · exact ⟨rfl, rfl, by simp, .inl⟩
        · exact (succeeds_connectionLost (by simp) connection).congr rfl rfl rfl rfl
      · exact (succeeds_connectionLost (by simp) connection).congr rfl rfl rfl rfl

theorem succeeds_step (peer : Peer) (move : PeerMove) :
    peer.Succeeds move (peer.step move).1 := by
  cases move with
  | queue data => exact ⟨rfl, rfl, by simp [step, queue], .inl⟩
  | beginSend =>
    simp only [step, beginSend?]
    split <;> exact ⟨rfl, rfl, by simp, .inl⟩
  | finishSend connection outcome => exact peer.succeeds_finishSend connection outcome
  | beginConnect =>
    simp only [step, beginConnect]
    split <;> exact ⟨rfl, rfl, by simp, fun _ => .inr rfl⟩
  | dialFailed =>
    simp only [step, dialFailed]
    split
    · exact ⟨rfl, rfl, by simp, nofun⟩
    · exact ⟨rfl, rfl, by simp, .inl⟩
  | setConnection connection =>
    simp only [step, setConnection]
    split
    · exact ⟨rfl, rfl, by simp, .inl⟩
    · exact ⟨rfl, rfl, by simp, nofun⟩
  | connectionLost connection => exact succeeds_connectionLost (by simp) connection
  | close => exact ⟨rfl, rfl, by simp [step, Peer.close], nofun⟩

/-! ## Invariants -/

/-- A peer is active while a connection is bound, and there is none once it is closed. -/
structure IsCoherent (peer : Peer) : Prop where
  active_iff : peer.state = .active ↔ ∃ connection, peer.connection = some connection
  unbound_of_closed : peer.closed = true → peer.connection = none

theorem isCoherent_new (id : PeerId) (origin : Origin) (queueSize retryBudget : Nat) :
    (new id origin queueSize retryBudget).IsCoherent :=
  ⟨by simp [new], fun hclosed => by cases hclosed⟩

theorem IsCoherent.not_active_of_closed (h : peer.IsCoherent) (hclosed : peer.closed = true) :
    peer.state ≠ .active := by
  intro hactive
  obtain ⟨connection, hconnection⟩ := h.active_iff.mp hactive
  rw [h.unbound_of_closed hclosed] at hconnection
  cases hconnection

theorem IsCoherent.of_relinks (h : peer.IsCoherent) (hrelinks : peer.Relinks move after hungUp) :
    after.IsCoherent := by
  cases hrelinks with
  | kept hconnection hactive hclosed =>
    refine ⟨?_, fun hclosed' => ?_⟩
    · rw [hactive, h.active_iff, hconnection]
    · rw [hconnection]
      exact h.unbound_of_closed (hclosed ▸ hclosed')
  | unbound hconnection hstate =>
    refine ⟨⟨fun hactive => ?_, fun ⟨_, hsome⟩ => ?_⟩, fun _ => hconnection⟩
    · rcases hstate with hidle | ⟨hsame, hclosed⟩
      · rw [hidle] at hactive
        cases hactive
      · exact absurd (hsame ▸ hactive) (h.not_active_of_closed hclosed)
    · rw [hconnection] at hsome
      cases hsome
  | rebound connection _ hconnection hactive _ hclosed =>
    refine ⟨⟨fun _ => ⟨connection, hconnection⟩, fun _ => hactive⟩, fun hclosed' => ?_⟩
    rw [hclosed] at hclosed'
    cases hclosed'

/-- A peer that was offered some connections holds the one of them that was not hung up. -/
structure Holds (peer : Peer) (offered hungUp : List ConnectionId) : Prop where
  isCoherent : peer.IsCoherent
  bound_iff : ∀ connection,
    peer.connection = some connection ↔ connection ∈ offered ∧ connection ∉ hungUp
  hungUp_subset : hungUp ⊆ offered

theorem Holds.not_mem_hungUp (h : peer.Holds offered hungUp) (hnew : connection ∉ offered) :
    connection ∉ hungUp := fun hgone => hnew (h.hungUp_subset hgone)

theorem Holds.mem_hungUp_or_bound (h : peer.Holds offered hungUp) (hold : connection ∈ offered) :
    connection ∈ hungUp ∨ peer.connection = some connection :=
  Decidable.or_iff_not_imp_left.mpr fun hopen => (h.bound_iff connection).mpr ⟨hold, hopen⟩

/-- **A timely move** keeps it so. -/
theorem Holds.of_relinks {gone : List ConnectionId} (h : peer.Holds offered hungUp)
    (htimely : move.IsTimely offered) (hrelinks : peer.Relinks move after gone) :
    after.Holds (offered ++ move.offers) (hungUp ++ gone) := by
  have hcoherent := h.isCoherent.of_relinks hrelinks
  cases hrelinks with
  | kept hconnection _ _ hoffers hgone =>
    rw [hoffers, List.append_nil]
    refine ⟨hcoherent, fun connection => ?_, List.append_subset.mpr ⟨h.hungUp_subset, ?_⟩⟩
    · rw [hconnection, h.bound_iff, List.mem_append, not_or]
      refine ⟨fun ⟨hold, hopen⟩ => ⟨hold, hopen, fun hmem => ?_⟩,
        fun ⟨hold, hopen, _⟩ => ⟨hold, hopen⟩⟩
      exact (hgone connection hmem).1 ((h.bound_iff connection).mpr ⟨hold, hopen⟩)
    · intro connection hmem
      obtain ⟨-, outcome, rfl⟩ := hgone connection hmem
      exact htimely
  | unbound hconnection _ hgone =>
    refine ⟨hcoherent, fun connection => ?_, List.append_subset.mpr ⟨?_, ?_⟩⟩
    · rw [hconnection, List.mem_append, List.mem_append, hgone]
      refine ⟨nofun, fun ⟨hmem, hopen⟩ => ?_⟩
      obtain ⟨hkept, hleft⟩ := not_or.mp hopen
      obtain ⟨hunbound, hnew⟩ := not_or.mp hleft
      rcases hmem with hold | hoffered
      · exact absurd (h.mem_hungUp_or_bound hold) (not_or.mpr ⟨hkept, hunbound⟩)
      · exact absurd hoffered hnew
    · exact fun connection hmem => List.mem_append_left _ (h.hungUp_subset hmem)
    · intro connection hmem
      rcases (hgone connection).mp hmem with hbound | hoffered
      · exact List.mem_append_left _ ((h.bound_iff connection).mp hbound).1
      · exact List.mem_append_right _ hoffered
  | rebound connection hmove hconnection _ _ _ hgone =>
    subst hmove
    have hnew : connection ∉ offered := htimely
    have hreplaced : ∀ other, other ∈ gone ↔ peer.connection = some other := fun other => by
      rw [hgone, Option.mem_toList]
    refine ⟨hcoherent, fun other => ?_, List.append_subset.mpr ⟨?_, ?_⟩⟩
    · rw [hconnection, Option.some.injEq, PeerMove.offers, List.mem_append, List.mem_append,
        hreplaced, List.mem_singleton, not_or]
      constructor
      · rintro rfl
        exact ⟨.inr rfl, h.not_mem_hungUp hnew, fun hbound => hnew ((h.bound_iff _).mp hbound).1⟩
      · rintro ⟨hold | rfl, hkept, hunbound⟩
        · exact absurd (h.mem_hungUp_or_bound hold) (not_or.mpr ⟨hkept, hunbound⟩)
        · rfl
    · exact fun other hmem => List.mem_append_left _ (h.hungUp_subset hmem)
    · intro other hmem
      exact List.mem_append_left _ ((h.bound_iff other).mp ((hreplaced other).mp hmem)).1

/-! ## Lives -/

/-- **Whatever happens**, as long as it is timely, a peer holds the one connection it was offered that
was not hung up. -/
theorem Holds.afterAll {moves : List PeerMove} (h : peer.Holds offered hungUp)
    (htimely : PeerMove.AreTimely offered moves) :
    (peer.afterAll moves).Holds (offered ++ PeerMove.offered moves)
      (hungUp ++ peer.hungUpBy moves) := by
  induction moves generalizing peer offered hungUp with
  | nil => simpa [PeerMove.offered, hungUpBy, along, Peer.afterAll] using h
  | cons move moves ih =>
    have hrest := ih (h.of_relinks htimely.1 (peer.relinks_step move)) htimely.2
    rw [List.append_assoc, List.append_assoc] at hrest
    exact hrest

theorem closed_after (hclosed : peer.closed = true) (move : PeerMove) :
    (peer.after move).closed = true :=
  (peer.succeeds_step move).closed_iff.mpr (.inl hclosed)

theorem closed_afterAll (hclosed : peer.closed = true) (moves : List PeerMove) :
    (peer.afterAll moves).closed = true := by
  induction moves generalizing peer with
  | nil => exact hclosed
  | cons move moves ih => exact ih (closed_after hclosed move)

/-- A closed peer wants no connection any more. -/
theorem setConnection_of_closed (hclosed : peer.closed = true) (hnone : peer.connection = none)
    (connection : ConnectionId) : peer.setConnection connection = (peer, [connection]) := by
  obtain ⟨id, origin, outbox, retryBudget, state, bound, failures, closed⟩ := peer
  obtain rfl : closed = true := hclosed
  obtain rfl : bound = none := hnone
  rfl

/-- A peer that was closed stays closed. -/
theorem closed_afterAll_of_close_mem {moves : List PeerMove} (h : .close ∈ moves) :
    (peer.afterAll moves).closed = true := by
  induction moves generalizing peer with
  | nil => cases h
  | cons move moves ih =>
    rcases List.mem_cons.mp h with rfl | hlater
    · have hclosed : (peer.after .close).closed = true := rfl
      exact closed_afterAll hclosed moves
    · exact ih hlater

/-- **A peer keeps one connection at most.** Whatever happened to a new peer, as long as connections
are offered to it once and sends end on connections that it was offered: it is active exactly while a
connection is bound, and of those that it was offered just the bound one was not hung up. The report
that another connection was lost changes nothing, also when the end of a send says so; no more is true
then than that nothing is being sent. A dial begins exactly if the peer is disconnected. Once the peer
was closed it has no connection and is not active, and one that is offered is hung up at once. -/
theorem keeps_one_connection (id : PeerId) (origin : Origin) (queueSize retryBudget : Nat)
    {moves : List PeerMove} (htimely : PeerMove.AreTimely [] moves) :
    let start := new id origin queueSize retryBudget
    let peer := start.afterAll moves
    (peer.state = .active ↔ ∃ connection, peer.connection = some connection) ∧
    (∀ connection ∈ PeerMove.offered moves,
      (peer.connection = some connection ↔ connection ∉ start.hungUpBy moves)) ∧
    (∀ connection, peer.connection ≠ some connection →
      peer.connectionLost connection = (peer, []) ∧
      peer.finishSend connection (.error .closed) =
        ({ peer with outbox := peer.outbox.giveUp }, [])) ∧
    (∀ dialling, peer.beginConnect = some dialling ↔
      peer.state = .disconnected ∧ dialling = { peer with state := .connecting }) ∧
    (.close ∈ moves → peer.connection = none ∧ peer.state ≠ .active ∧
      ∀ connection, peer.setConnection connection = (peer, [connection])) := by
  intro start peer
  have hstart : start.Holds [] [] :=
    ⟨isCoherent_new id origin queueSize retryBudget, fun _ => by simp [start, new],
      List.Subset.refl []⟩
  have hholds : peer.Holds (PeerMove.offered moves) (start.hungUpBy moves) :=
    hstart.afterAll htimely
  refine ⟨hholds.isCoherent.active_iff, fun connection hoffered => ?_, fun connection hstale => ?_,
    fun dialling => ?_, fun hclose => ?_⟩
  · rw [hholds.bound_iff, and_iff_right hoffered]
  · exact ⟨if_neg hstale, if_neg hstale⟩
  · rw [beginConnect]
    split
    · next hidle => simp [hidle, eq_comm]
    · next hbusy => simp [hbusy]
  · have hclosed : peer.closed = true := closed_afterAll_of_close_mem hclose
    have hnone := hholds.isCoherent.unbound_of_closed hclosed
    exact ⟨hnone, hholds.isCoherent.not_active_of_closed hclosed,
      fun connection => setConnection_of_closed hclosed hnone connection⟩

/-- A dial fails after a stream was bound, a second stream takes the place of the first, whose loss is
reported late, and the peer is closed before a third one comes. -/
theorem keeps_one_connection_late_reports :
    let start := new ⟨1⟩ (.outbound ⟨"a", 1⟩) 4 3
    let moves : List PeerMove := [.beginConnect, .setConnection ⟨1⟩, .dialFailed, .setConnection ⟨2⟩,
      .connectionLost ⟨1⟩, .finishSend ⟨1⟩ (.error .closed), .close, .setConnection ⟨3⟩]
    let peer := start.afterAll moves
    PeerMove.AreTimely [] moves ∧ start.hungUpBy moves = [⟨1⟩, ⟨2⟩, ⟨3⟩] ∧
      (start.afterAll (moves.take 6)).connection = some ⟨2⟩ ∧
      peer.connection = none ∧ peer.state ≠ .active ∧
      ∀ connection, peer.setConnection connection = (peer, [connection]) := by
  intro start moves peer
  have htimely : PeerMove.AreTimely [] moves := by
    simp [moves, PeerMove.AreTimely, PeerMove.IsTimely, PeerMove.offers]
  obtain ⟨-, -, -, -, hclose⟩ :=
    keeps_one_connection ⟨1⟩ (.outbound ⟨"a", 1⟩) 4 3 htimely
  obtain ⟨hnone, hidle, hrefused⟩ := hclose (by simp [moves])
  exact ⟨htimely, rfl, rfl, hnone, hidle, hrefused⟩

end Peer

end RadioGossip
