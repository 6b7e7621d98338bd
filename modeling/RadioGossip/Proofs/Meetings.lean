import RadioGossip.Proofs.Quiescence
import RadioGossip.Proofs.Supplements

/-!
# When neighbours meet

Two neighbours **meet**: at both ends of a link a peer connects, and both stations ask. Each of the
two exchanges then goes its way in three steps. Its query is under way, its answer is, and at last it
is merged. The two go on side by side, and whichever frame is delivered next carries one of them one
step further. The other one does not notice: it makes no difference to an answer whether it is given
before or after the own exchange of the station that gives it.

So whatever the order of deliveries, after four of them nothing is in flight, and both caches are
supplemented: they hold what the two held between them, each message once.
-/

namespace RadioGossip

namespace Station

/-- What a station is called, and what it counted of relays and of merged messages. -/
structure Books where
  callsign : String
  relayed : Nat
  merged : Nat
  deriving DecidableEq, Repr

/-- The books of a station. -/
def books (station : Station) : Books :=
  ⟨station.callsign, station.node.engine.stats.relayed, station.merged⟩

/-- What became of a station that caught up with one that held the other cache: it holds its cache
supplemented, and so all keys of both, each of them once. It merged as many messages as it lacked, and
it relayed none. -/
structure CaughtUp (before after : Station) (cache' : Cache) : Prop where
  cache : after.node.engine.cache =
    before.node.engine.cache.supplemented cache' before.callsign
  mem_keys : ∀ key, key ∈ after.node.engine.cache.keys ↔
    key ∈ before.node.engine.cache.keys ∨ key ∈ cache'.keys
  nodup : after.node.engine.cache.keys.Nodup
  merged : after.merged = before.merged + (before.node.engine.cache.lacking cache').length
  relayed : after.node.engine.stats.relayed = before.node.engine.stats.relayed

end Station

/-! ## The two sides -/

/-- How far an exchange has come. -/
inductive Phase where
  | idle
  | asked
  | answered
  | merged
  deriving DecidableEq, Repr

namespace Phase

/-- The number of steps that the exchange still takes. -/
def remaining : Phase → Nat
  | idle => 3
  | asked => 2
  | answered => 1
  | merged => 0

end Phase

/-- One side of a meeting: a station at an end of the link, as it was before. -/
structure Neighbour where
  place : LinkEnd
  cache : Cache
  books : Station.Books
  deriving DecidableEq, Repr

namespace Neighbour

/-- What a side holds when its exchange has come so far. -/
def cacheAt (side other : Neighbour) : Phase → Cache
  | .merged => side.cache.supplemented other.cache side.books.callsign
  | _ => side.cache

/-- What stands in the books of a side when its exchange has come so far. -/
def booksAt (side other : Neighbour) : Phase → Station.Books
  | .merged => { side.books with
      merged := side.books.merged + (side.cache.lacking other.cache).length }
  | _ => side.books

/-- What the exchange that a side asked for has in flight. -/
inductive Pending (side other : Neighbour) : Phase → List Flight → Prop
  | idle : Pending side other .idle []
  | asked {frame : Bytes} (hframe : Reconciliation.CarriesUpdate frame
      ⟨.cacheRequest, (Reconciliation.queryOf side.cache.keys).record⟩) :
      Pending side other .asked [⟨other.place, frame⟩]
  | answered {frame : Bytes} (hframe : Reconciliation.CarriesUpdate frame
      ⟨.cacheResponse,
        (Reconciliation.answerFor side.cache.keys other.cache.entries).record⟩) :
      Pending side other .answered [⟨side.place, frame⟩]
  | merged : Pending side other .merged []

variable {side other : Neighbour} {phase : Phase} {flights : List Flight} {flight : Flight}

/-- An exchange has at most one frame in flight. -/
theorem Pending.eq_singleton (h : side.Pending other phase flights) (hmem : flight ∈ flights) :
    flights = [flight] := by
  cases h with
  | idle => cases hmem
  | asked => rw [List.mem_singleton.mp hmem]
  | answered => rw [List.mem_singleton.mp hmem]
  | merged => cases hmem

/-- An exchange that has begun and has nothing in flight is over. -/
theorem Pending.eq_merged (h : side.Pending other phase []) (hbegun : phase.remaining ≤ 2) :
    phase = .merged := by
  cases h with
  | idle => exact absurd hbegun (by decide)
  | merged => rfl

theorem Pending.eq_nil (h : side.Pending other phase flights) (hover : phase.remaining = 0) :
    flights = [] := by
  cases h with
  | merged => rfl
  | idle => cases hover
  | asked => cases hover
  | answered => cases hover

theorem Pending.carriesUpdate (h : side.Pending other phase flights) (hmem : flight ∈ flights) :
    ∃ update, Reconciliation.CarriesUpdate flight.data update := by
  cases h with
  | idle => cases hmem
  | asked hframe =>
    rw [List.mem_singleton.mp hmem]
    exact ⟨_, hframe⟩
  | answered hframe =>
    rw [List.mem_singleton.mp hmem]
    exact ⟨_, hframe⟩
  | merged => cases hmem

/-- What an answer offers does not depend on how far the other exchange has come. -/
theorem answerFor_cacheAt (h : side.cache.CanCatchUp other.cache) (phase : Phase) :
    Reconciliation.answerFor side.cache.keys (other.cacheAt side phase).entries =
      Reconciliation.answerFor side.cache.keys other.cache.entries := by
  cases phase with
  | merged => exact Reconciliation.answerFor_supplemented h other.books.callsign
  | idle => rfl
  | asked => rfl
  | answered => rfl

end Neighbour

/-! ## The state of a meeting -/

namespace Mesh

/-- A mesh in which two sides meet, with how far the exchanges of both have come. -/
structure Meets (mesh : Mesh) (side other : Neighbour) (phase phase' : Phase) : Prop where
  joins : mesh.Joins side.place other.place (side.cacheAt other phase) (other.cacheAt side phase')
  books : ∀ station, mesh.stations[side.place.station]? = some station →
    station.books = side.booksAt other phase
  books' : ∀ station, mesh.stations[other.place.station]? = some station →
    station.books = other.booksAt side phase'
  inFlight : ∃ flights flights', side.Pending other phase flights ∧
    other.Pending side phase' flights' ∧ mesh.inFlight.Perm (flights ++ flights')

variable {mesh : Mesh} {side other : Neighbour} {phase phase' next next' : Phase}
  {reaction : Station → Station} {left : List Flight}

theorem Meets.symm (h : mesh.Meets side other phase phase') : mesh.Meets other side phase' phase := by
  obtain ⟨flights, flights', hpending, hpending', hperm⟩ := h.inFlight
  exact ⟨h.joins.symm, h.books', h.books, flights', flights, hpending', hpending,
    hperm.trans List.perm_append_comm⟩

/-- **A move** of one side leaves the other as it is. -/
theorem Meets.react (h : mesh.Meets side other phase phase')
    (houtline : ∀ station, (reaction station).outline = station.outline)
    (hwiring : ∀ station, (reaction station).wiring = station.wiring)
    (hreaction : ∀ station, mesh.stations[side.place.station]? = some station →
      (reaction station).node.engine.cache = side.cacheAt other next ∧
        (reaction station).books = side.booksAt other next)
    (hcache : other.cacheAt side next' = other.cacheAt side phase')
    (hbooks : other.booksAt side next' = other.booksAt side phase')
    (hinFlight : ∃ flights flights', side.Pending other next flights ∧
      other.Pending side next' flights' ∧
      (mesh.react side.place.station reaction left).inFlight.Perm (flights ++ flights')) :
    (mesh.react side.place.station reaction left).Meets side other next next' := by
  refine ⟨?_, ?_, ?_, hinFlight⟩
  · rw [hcache]
    exact h.joins.react left houtline hwiring fun station hstation => (hreaction station hstation).1
  · intro station hstation
    obtain ⟨before, hbefore, rfl⟩ := getElem?_stations_react.mp hstation
    rw [if_pos rfl]
    exact (hreaction before hbefore).2
  · intro station hstation
    obtain ⟨before, hbefore, rfl⟩ := getElem?_stations_react.mp hstation
    rw [if_neg h.joins.distinct, hbooks]
    exact h.books' before hbefore

/-! ## The steps of an exchange -/

/-- The peer at one end of a link connects, and the station there asks. -/
def greet (mesh : Mesh) (here : LinkEnd) : Mesh :=
  (mesh.updateStation here.station (·.peerConnected here.peer)).launch

theorem greet_eq_react (mesh : Mesh) (here : LinkEnd) :
    mesh.greet here = mesh.react here.station (·.peerConnected here.peer) mesh.inFlight :=
  rfl

theorem Meets.greet (h : mesh.Meets side other .idle phase') :
    (mesh.greet side.place).Meets side other .asked phase' := by
  obtain ⟨station, hstation, hserves⟩ := h.joins.near
  have hcache : station.node.engine.cache = side.cache := hserves.cache_eq
  obtain ⟨frame, hframe, hsends, hengine, hmerged⟩ := hserves.reconciles.asks side.place.peer
  rw [hcache] at hframe
  obtain ⟨flights, flights', hpending, hpending', hperm⟩ := h.inFlight
  cases hpending
  rw [greet_eq_react]
  refine h.react (fun _ => Station.outline_peerConnected ..)
    (fun _ => Station.wiring_peerConnected ..) ?_ rfl rfl ?_
  · intro station' hstation'
    obtain rfl : station = station' := by rwa [hstation, Option.some.injEq] at hstation'
    refine ⟨by rw [hengine, hcache]; rfl, ?_⟩
    rw [Station.books, Station.callsign, hengine, hmerged]
    exact h.books station hstation
  · have hflights : (mesh.greet side.place).inFlight = mesh.inFlight ++ [⟨other.place, frame⟩] :=
      h.joins.inFlight_of_sends_one hstation hsends
    refine ⟨_, _, .asked hframe, hpending', ?_⟩
    rw [← greet_eq_react, hflights]
    exact (List.perm_append_singleton _ _).trans (hperm.cons _)

/-- The query arrives and is answered. -/
theorem Meets.answer (h : mesh.Meets side other .asked phase')
    (hcatch : side.cache.CanCatchUp other.cache) {frame : Bytes}
    (hframe : Reconciliation.CarriesUpdate frame
      ⟨.cacheRequest, (Reconciliation.queryOf side.cache.keys).record⟩)
    {flights' : List Flight} (hpending' : other.Pending side phase' flights')
    (hleft : left.Perm flights') :
    (mesh.react other.place.station (·.handle frame (some other.place.peer)) left).Meets side other
      .answered phase' := by
  obtain ⟨station, hstation, hserves⟩ := h.joins.far
  have hcache := hserves.cache_eq
  obtain ⟨reply, hreply, hsends, hengine, hmerged⟩ :=
    hserves.reconciles.answers hframe other.place.peer
  rw [Node.cached, hcache, Neighbour.answerFor_cacheAt hcatch] at hreply
  -- It is the other side that moves here, and it moves this exchange.
  suffices hmeets : (mesh.react other.place.station
      (·.handle frame (some other.place.peer)) left).Meets other side phase' .answered from
    hmeets.symm
  refine h.symm.react (fun _ => Station.outline_handle ..) (fun _ => Station.wiring_handle ..) ?_
    rfl rfl ?_
  · intro station' hstation'
    obtain rfl : station = station' := by rwa [hstation, Option.some.injEq] at hstation'
    refine ⟨by rw [hengine, hcache], ?_⟩
    rw [Station.books, Station.callsign, hengine, hmerged]
    exact h.books' station hstation
  · refine ⟨_, _, hpending', .answered hreply, ?_⟩
    rw [h.joins.symm.inFlight_of_sends_one hstation hsends]
    exact hleft.append_right _

/-- The answer arrives and is merged. -/
theorem Meets.merge (h : mesh.Meets side other .answered phase')
    (hcatch : side.cache.CanCatchUp other.cache) (hcatch' : other.cache.CanCatchUp side.cache)
    {frame : Bytes} (hframe : Reconciliation.CarriesUpdate frame
      ⟨.cacheResponse, (Reconciliation.answerFor side.cache.keys other.cache.entries).record⟩)
    {flights' : List Flight} (hpending' : other.Pending side phase' flights')
    (hleft : left.Perm flights') :
    (mesh.react side.place.station (·.handle frame (some side.place.peer)) left).Meets side other
      .merged phase' := by
  obtain ⟨station, hstation, hserves⟩ := h.joins.near
  obtain ⟨hpeers, hcache, hrelayed, hmerged⟩ := hserves.reconciles.supplements hserves.cache_eq
    hcatch hcatch' hframe side.place.peer
  have hbooks : station.books = side.books := h.books station hstation
  have hcallsign : station.callsign = side.books.callsign := congrArg Station.Books.callsign hbooks
  refine h.react (fun _ => Station.outline_handle ..) (fun _ => Station.wiring_handle ..) ?_ rfl rfl
    ?_
  · intro station' hstation'
    obtain rfl : station = station' := by rwa [hstation, Option.some.injEq] at hstation'
    refine ⟨by rw [hcache, hcallsign]; rfl, ?_⟩
    have hsame : (station.handle frame (some side.place.peer)).callsign = station.callsign :=
      Station.callsign_of_outline_eq (Station.outline_handle ..)
    rw [Station.books, hsame, hrelayed, hmerged, Neighbour.booksAt, ← hbooks]
    rfl
  · refine ⟨_, _, .merged, hpending', ?_⟩
    rw [h.joins.inFlight_of_peers_eq hstation hpeers]
    exact hleft

/-- **A delivery** of what an exchange has in flight carries it one step further. -/
theorem Meets.deliver (h : mesh.Meets side other phase phase')
    (hcatch : side.cache.CanCatchUp other.cache) (hcatch' : other.cache.CanCatchUp side.cache)
    {flight : Flight} (hpending : side.Pending other phase [flight])
    {flights' : List Flight} (hpending' : other.Pending side phase' flights')
    (hleft : left.Perm flights') :
    ∃ next, next.remaining + 1 = phase.remaining ∧
      (mesh.react flight.target.station (·.handle flight.data (some flight.target.peer)) left).Meets
        side other next phase' := by
  cases hpending with
  | asked hframe => exact ⟨.answered, rfl, h.answer hcatch hframe hpending' hleft⟩
  | answered hframe => exact ⟨.merged, rfl, h.merge hcatch hcatch' hframe hpending' hleft⟩

/-- **A step** carries one of the exchanges one step further, whichever frame it delivers. -/
theorem Meets.step (h : mesh.Meets side other phase phase')
    (hcatch : side.cache.CanCatchUp other.cache) (hcatch' : other.cache.CanCatchUp side.cache)
    (index : Nat) :
    ∃ next next', (mesh.step index).Meets side other next next' ∧
      next.remaining ≤ phase.remaining ∧ next'.remaining ≤ phase'.remaining ∧
      (index < mesh.inFlight.length →
        next.remaining + next'.remaining + 1 = phase.remaining + phase'.remaining) := by
  cases hflight : mesh.inFlight[index]? with
  | none =>
    rw [step_eq_self hflight]
    refine ⟨phase, phase', h, Nat.le_refl _, Nat.le_refl _, fun hindex => ?_⟩
    exact absurd hindex (Nat.not_lt.mpr (List.getElem?_eq_none_iff.mp hflight))
  | some flight =>
    obtain ⟨flights, flights', hpending, hpending', hperm⟩ := h.inFlight
    obtain ⟨hindex, hget⟩ := List.getElem?_eq_some_iff.mp hflight
    have hsplit : (flight :: mesh.inFlight.eraseIdx index).Perm (flights ++ flights') := by
      rw [← hget]
      exact (List.getElem_cons_eraseIdx_perm hindex).trans hperm
    rw [step_eq_react hflight]
    rcases List.mem_append.mp (hsplit.subset List.mem_cons_self) with hmem | hmem
    · obtain rfl := hpending.eq_singleton hmem
      obtain ⟨next, hnext, hmeets⟩ :=
        h.deliver hcatch hcatch' hpending hpending' (hsplit.cons_inv)
      exact ⟨next, phase', hmeets, by omega, Nat.le_refl _, fun _ => by omega⟩
    · obtain rfl := hpending'.eq_singleton hmem
      obtain ⟨next', hnext, hmeets⟩ := h.symm.deliver hcatch' hcatch hpending' hpending
        ((hsplit.trans List.perm_append_comm).cons_inv)
      exact ⟨phase, next', hmeets.symm, Nat.le_refl _, by omega, fun _ => by omega⟩

/-- **A run** carries the meeting on, and every delivery counts. -/
theorem Meets.run (h : mesh.Meets side other phase phase')
    (hcatch : side.cache.CanCatchUp other.cache) (hcatch' : other.cache.CanCatchUp side.cache)
    (order : List Nat) :
    ∃ next next', (mesh.run order).Meets side other next next' ∧
      next.remaining ≤ phase.remaining ∧ next'.remaining ≤ phase'.remaining ∧
      (mesh.Delivers order →
        next.remaining + next'.remaining + order.length = phase.remaining + phase'.remaining) := by
  induction order generalizing mesh phase phase' with
  | nil => exact ⟨phase, phase', h, Nat.le_refl _, Nat.le_refl _, fun _ => rfl⟩
  | cons index order ih =>
    obtain ⟨mid, mid', hstep, hle, hle', hcount⟩ := h.step hcatch hcatch' index
    obtain ⟨next, next', hrun, hless, hless', hrest⟩ := ih hstep
    refine ⟨next, next', hrun, Nat.le_trans hless hle, Nat.le_trans hless' hle', ?_⟩
    rintro ⟨hindex, hdelivers⟩
    have hfirst := hcount hindex
    have hothers := hrest hdelivers
    rw [List.length_cons]
    omega

/-! ## The whole meeting -/

/-- The peers at both ends of a link connect, and both stations ask. -/
def meet (mesh : Mesh) (here there : LinkEnd) : Mesh := (mesh.greet here).greet there

/-- One station of a mesh caught up with a station that held the other cache. -/
def CaughtUp (mesh after : Mesh) (index : Nat) (cache' : Cache) : Prop :=
  ∃ station ∈ mesh.stations[index]?, ∃ station' ∈ after.stations[index]?,
    station.CaughtUp station' cache'

variable {here there : LinkEnd} {cache cache' : Cache} {station station' : Station}

/-- Neighbours can meet at any time. -/
theorem Joins.meets (h : mesh.Joins here there cache cache') (hidle : mesh.inFlight = [])
    (hstation : mesh.stations[here.station]? = some station)
    (hstation' : mesh.stations[there.station]? = some station') :
    mesh.Meets ⟨here, cache, station.books⟩ ⟨there, cache', station'.books⟩ .idle .idle where
  joins := h
  books before hbefore := by
    obtain rfl : station = before := by rwa [hstation, Option.some.injEq] at hbefore
    rfl
  books' before hbefore := by
    obtain rfl : station' = before := by rwa [hstation', Option.some.injEq] at hbefore
    rfl
  inFlight := ⟨[], [], .idle, .idle, by rw [hidle]; exact .refl _⟩

/-- A side whose exchange is over has caught up. -/
theorem Meets.caughtUp {after : Mesh} (h : after.Meets side other .merged phase')
    (hcatch : side.cache.CanCatchUp other.cache) (hcatch' : other.cache.CanCatchUp side.cache)
    (hstation : mesh.stations[side.place.station]? = some station)
    (hcache : station.node.engine.cache = side.cache) (hbooks : station.books = side.books) :
    mesh.CaughtUp after side.place.station other.cache := by
  obtain ⟨station', hstation', hserves⟩ := h.joins.near
  have hheld : station'.node.engine.cache =
      station.node.engine.cache.supplemented other.cache station.callsign := by
    rw [hserves.cache_eq, hcache, Neighbour.cacheAt, ← hbooks]
    rfl
  have hbooks' := h.books station' hstation'
  rw [Neighbour.booksAt, ← hbooks, ← hcache] at hbooks'
  refine ⟨station, hstation, station', hstation', hheld, fun key => ?_, ?_,
    congrArg Station.Books.merged hbooks', congrArg Station.Books.relayed hbooks'⟩
  · rw [hheld, Cache.mem_keys_supplemented_iff]
  · rw [hheld]
    exact Cache.nodup_keys_supplemented (hcache ▸ hcatch.isSound.nodup) hcatch'.isSound.nodup _

/-- **One meeting is enough.** Two neighbours with reconcilers, between which nothing is in flight,
hold what they took in on request, and one exchange can bring each of them all that it lacks. They
meet, and the frames in flight are delivered in any order. All that is ever in flight are their
updates, after four deliveries there are none left, and whenever none are left both have caught up. -/
theorem meeting_converges {mesh : Mesh} {here there : LinkEnd} {cache cache' : Cache}
    (hjoins : mesh.Joins here there cache cache') (hidle : mesh.inFlight = [])
    (hcatch : cache.CanCatchUp cache') (hcatch' : cache'.CanCatchUp cache) :
    (∀ order, (mesh.meet here there).Delivers order → order.length ≤ 4 ∧
      (order.length = 4 → ((mesh.meet here there).run order).inFlight = [])) ∧
    ∀ order,
      (∀ flight ∈ ((mesh.meet here there).run order).inFlight,
        ∃ update, Reconciliation.CarriesUpdate flight.data update) ∧
      (((mesh.meet here there).run order).inFlight = [] →
        mesh.CaughtUp ((mesh.meet here there).run order) here.station cache' ∧
        mesh.CaughtUp ((mesh.meet here there).run order) there.station cache) := by
  obtain ⟨station, hstation, hserves⟩ := hjoins.near
  obtain ⟨station', hstation', hserves'⟩ := hjoins.far
  have hmeets : (mesh.meet here there).Meets ⟨here, cache, station.books⟩
      ⟨there, cache', station'.books⟩ .asked .asked :=
    (hjoins.meets hidle hstation hstation').greet.symm.greet.symm
  refine ⟨fun order hdelivers => ?_, fun order => ⟨?_, fun hdone => ?_⟩⟩
  · obtain ⟨next, next', hrun, -, -, hcount⟩ := hmeets.run hcatch hcatch' order
    have hsteps : next.remaining + next'.remaining + order.length = 4 := hcount hdelivers
    refine ⟨by omega, fun hlength => ?_⟩
    obtain ⟨flights, flights', hpending, hpending', hperm⟩ := hrun.inFlight
    rw [hpending.eq_nil (by omega), hpending'.eq_nil (by omega)] at hperm
    exact hperm.eq_nil
  · obtain ⟨next, next', hrun, -⟩ := hmeets.run hcatch hcatch' order
    obtain ⟨flights, flights', hpending, hpending', hperm⟩ := hrun.inFlight
    intro flight hflight
    rcases List.mem_append.mp (hperm.subset hflight) with hmem | hmem
    · exact hpending.carriesUpdate hmem
    · exact hpending'.carriesUpdate hmem
  · obtain ⟨next, next', hrun, hle, hle', -⟩ := hmeets.run hcatch hcatch' order
    obtain ⟨flights, flights', hpending, hpending', hperm⟩ := hrun.inFlight
    rw [hdone] at hperm
    obtain ⟨rfl, rfl⟩ := List.append_eq_nil_iff.mp hperm.symm.eq_nil
    obtain rfl := hpending.eq_merged hle
    obtain rfl := hpending'.eq_merged hle'
    exact ⟨hrun.caughtUp hcatch hcatch' hstation hserves.cache_eq rfl,
      hrun.symm.caughtUp hcatch' hcatch hstation' hserves'.cache_eq rfl⟩

/-! ## An overlap -/

/-- What the first of two stations takes in, and what the second does. -/
def overlapRequests (first : Bool) : List Request :=
  let message (sequence : UInt64) : Message :=
    { Message.make (.ofLetter 67) sequence .cq [1] with ttl := 3 }
  if first then [.add (message 1), .add (message 2)] else [.add (message 2), .add (message 3)]

/-- The engine of a station with room for three messages that took these in. -/
def overlapEngine (first : Bool) : Engine :=
  (Engine.new (.ofLetter (if first then 65 else 66)) 3 false).afterAll (overlapRequests first)

/-- Two stations with a reconciler each, which hold two messages each and one of them in common. -/
def overlap : Mesh :=
  let station (first : Bool) : Station := (Station.ofNode
    { settings := { cacheSize := 3, queueSize := 1 }
      engine := overlapEngine first
      nextSequence := 1 }).registerReconciler.1
  ofStations [station true, station false] [(0, 1)]

theorem joins_overlap : overlap.Joins ⟨0, ⟨1⟩⟩ ⟨1, ⟨1⟩⟩ (overlapEngine true).cache
    (overlapEngine false).cache where
  drained := by
    have hempty : ∀ station ∈ overlap.stations, ∀ peer ∈ station.node.peers,
        peer.outbox.contents = [] := by decide +kernel
    intro index station hstation peer hpeer _
    exact hempty station (List.mem_of_getElem? hstation) peer hpeer
  near := by
    refine ⟨overlap.stations[0], rfl, ⟨rfl, ⟨0, ?_, rfl⟩, ⟨0, ?_, rfl⟩⟩, ?_, ?_, rfl⟩
    all_goals decide +kernel
  far := by
    refine ⟨overlap.stations[1], rfl, ⟨rfl, ⟨0, ?_, rfl⟩, ⟨0, ?_, rfl⟩⟩, ?_, ?_, rfl⟩
    all_goals decide +kernel
  distinct := by decide
  link := by decide +kernel
  back := by decide +kernel

theorem canCatchUp_overlap (first : Bool) :
    (overlapEngine first).cache.CanCatchUp (overlapEngine !first).cache where
  isSound := Engine.isSound_afterAll (Cache.isSound_empty 3) _
  canonical := by
    refine Engine.isCanonical_afterAll (fun _ hnone => absurd hnone List.not_mem_nil) ?_
    revert first
    decide +kernel
  room := by
    rw [Cache.HasRoomFor]
    revert first
    decide +kernel
  query := by
    revert first
    decide +kernel
  answer := by
    revert first
    decide +kernel

/-- The first station merges the answer of the second before it answers itself. -/
theorem meeting_converges_overlap :
    overlap.Joins ⟨0, ⟨1⟩⟩ ⟨1, ⟨1⟩⟩ (overlapEngine true).cache (overlapEngine false).cache ∧
      overlap.inFlight = [] ∧
      (overlapEngine true).cache.CanCatchUp (overlapEngine false).cache ∧
      (overlapEngine false).cache.CanCatchUp (overlapEngine true).cache ∧
      (overlap.meet ⟨0, ⟨1⟩⟩ ⟨1, ⟨1⟩⟩).Delivers [0, 1, 0, 0] ∧
      overlap.CaughtUp ((overlap.meet ⟨0, ⟨1⟩⟩ ⟨1, ⟨1⟩⟩).run [0, 1, 0, 0]) 0
        (overlapEngine false).cache ∧
      overlap.CaughtUp ((overlap.meet ⟨0, ⟨1⟩⟩ ⟨1, ⟨1⟩⟩).run [0, 1, 0, 0]) 1
        (overlapEngine true).cache := by
  have hidle : overlap.inFlight = [] := by decide +kernel
  obtain ⟨hends, hmeet⟩ := meeting_converges joins_overlap hidle (canCatchUp_overlap true)
    (canCatchUp_overlap false)
  have hdelivers : (overlap.meet ⟨0, ⟨1⟩⟩ ⟨1, ⟨1⟩⟩).Delivers [0, 1, 0, 0] := by decide +kernel
  obtain ⟨hfirst, hsecond⟩ := (hmeet [0, 1, 0, 0]).2 ((hends _ hdelivers).2 rfl)
  exact ⟨joins_overlap, hidle, canCatchUp_overlap true, canCatchUp_overlap false, hdelivers, hfirst,
    hsecond⟩

end Mesh

end RadioGossip
