import RadioGossip.Proofs.Exchanges

/-!
# Catching up

Whether an exchange gets a station any further is decided by the front of what it is missing. What is
offered is taken from there, and the first message that does not fit ends the offer. So a message too
long for an answer by itself holds up all that stand behind it, in this exchange and in every later
one, for it stands in front of them again as long as the other station holds it.

When queries name everything, this is the only thing that can go wrong: an exchange gets the station
some new key exactly if the first message it is missing fits an answer by itself, and finitely many
exchanges bring it all keys exactly if all messages do that it is missing.
-/

namespace RadioGossip

namespace Reconciliation

/-- Queries between the two caches name all keys that are held, now and later, and name them as they
are. -/
structure FullyNamed (cache cache' : Cache) : Prop where
  canonical : ∀ key ∈ cache.keys ++ cache'.keys, key.source.IsCanonical
  fits : countLength + ((cache.keys ++ cache'.keys).dedup.map CacheQuery.keyLength).sum ≤
    Update.maxDataLength

variable {cache cache' grown : Cache} {keys : List Key}

theorem canonical_key_of_isCanonical {key : Key} (h : key.source.IsCanonical) :
    key.canonical = key := by
  rw [Key.canonical, Contact.canonical_eq_self_iff.mpr h]

theorem map_canonical_of_isCanonical (h : ∀ key ∈ keys, key.source.IsCanonical) :
    keys.map Key.canonical = keys :=
  (List.map_congr_left fun key hkey => canonical_key_of_isCanonical (h key hkey)).trans
    (List.map_id keys)

/-- A query names all keys if they are canonical and there are not too many of them. -/
theorem named_eq_self (hcanonical : ∀ key ∈ keys, key.source.IsCanonical)
    (hfits : countLength + (keys.map CacheQuery.keyLength).sum ≤ Update.maxDataLength) :
    named keys = keys := by
  have hall : keys.length ≤ fitting keys := by
    rw [le_fitting_iff (Nat.le_refl _), List.take_length, CacheQuery.length_record]
    exact hfits
  rw [named, List.take_of_length_le hall, map_canonical_of_isCanonical hcanonical]

/-- Some of the keys, each once, take no more bytes than all of them. -/
theorem sum_keyLength_le_of_subset {few many : List Key} (hnodup : few.Nodup) (h : few ⊆ many) :
    (few.map CacheQuery.keyLength).sum ≤ (many.map CacheQuery.keyLength).sum := by
  obtain ⟨same, hperm, hsublist⟩ := List.subperm_of_subset hnodup h
  rw [← (hperm.map CacheQuery.keyLength).sum_eq]
  exact (hsublist.map CacheQuery.keyLength).sum_le_sum fun _ _ => Nat.zero_le _

theorem FullyNamed.named_eq_self (h : FullyNamed cache cache') (hsound : cache.IsSound) :
    named cache.keys = cache.keys := by
  refine Reconciliation.named_eq_self (fun key hkey => h.canonical key (by simp [hkey])) ?_
  have hle : (cache.keys.map CacheQuery.keyLength).sum ≤
      ((cache.keys ++ cache'.keys).dedup.map CacheQuery.keyLength).sum :=
    sum_keyLength_le_of_subset hsound.nodup fun key hkey => List.mem_dedup.mpr (by simp [hkey])
  have hfits := h.fits
  omega

/-- A station that has grown by keys of the other still has its keys fully named. -/
theorem FullyNamed.grew (h : FullyNamed cache cache') (hgrew : cache.Grew grown keys)
    (hkeys : keys ⊆ cache'.keys) : FullyNamed grown cache' := by
  have hsubset : grown.keys ++ cache'.keys ⊆ cache.keys ++ cache'.keys := by
    refine List.append_subset.mpr ⟨fun key hkey => ?_, List.subset_append_right _ _⟩
    rcases List.mem_append.mp (hgrew.subset hkey) with hold | hnew
    · exact List.mem_append_left _ hold
    · exact List.mem_append_right _ (hkeys hnew)
  refine ⟨fun key hkey => h.canonical key (hsubset hkey), ?_⟩
  have hle := sum_keyLength_le_of_subset (grown.keys ++ cache'.keys).nodup_dedup
    fun key hkey => List.mem_dedup.mpr (hsubset (List.mem_dedup.mp hkey))
  have hfits := h.fits
  omega

/-- **An exchange gets a station further** exactly if among the messages that fit, with all before
them that it is missing, there is one under a new key. -/
theorem enlarges_iff (hgrew : cache.Grew grown (offeredKeys cache.keys cache'.entries)) :
    (∃ key ∈ grown.keys, key ∉ cache.keys) ↔ ∃ before message after,
      missing cache.keys cache'.entries = before ++ message :: after ∧
        countLength + ((before ++ [message]).map Message.encodedLength).sum ≤ Update.maxDataLength ∧
        message.key.canonical ∉ cache.keys := by
  constructor
  · rintro ⟨key, hgrown, hnew⟩
    obtain ⟨message, hmessage, rfl⟩ :=
      List.mem_map.mp (((hgrew.mem_iff key).mp hgrown).resolve_left hnew)
    rw [offered_eq] at hmessage
    obtain ⟨before, after, hmissing, hfits⟩ := mem_fittingMessages_iff.mp hmessage
    exact ⟨before, message, after, hmissing, hfits, hnew⟩
  · rintro ⟨before, message, after, hmissing, hfits, hnew⟩
    have hmessage : message ∈ offered cache.keys cache'.entries := by
      rw [offered_eq]
      exact mem_fittingMessages_iff.mpr ⟨before, after, hmissing, hfits⟩
    exact ⟨_, (hgrew.mem_iff _).mpr (.inr (List.mem_map_of_mem hmessage)), hnew⟩

/-- If queries name everything, it is the first missing message that decides. -/
theorem FullyNamed.enlarges_iff (h : FullyNamed cache cache') (hsound : cache.IsSound)
    (hgrew : cache.Grew grown (offeredKeys cache.keys cache'.entries)) :
    (∃ key ∈ grown.keys, key ∉ cache.keys) ↔
      ∃ message ∈ (missing cache.keys cache'.entries).head?,
        countLength + message.encodedLength ≤ Update.maxDataLength := by
  rw [Reconciliation.enlarges_iff hgrew]
  constructor
  · rintro ⟨before, message, after, hmissing, hfits, -⟩
    cases before with
    | nil =>
      refine ⟨message, by rw [hmissing]; rfl, ?_⟩
      simpa using hfits
    | cons first before =>
      refine ⟨first, by rw [hmissing]; rfl, ?_⟩
      simp only [List.cons_append, List.map_cons, List.sum_cons] at hfits
      omega
  · rintro ⟨message, hhead, hfits⟩
    obtain ⟨after, hmissing⟩ := List.head?_eq_some_iff.mp hhead
    refine ⟨[], message, after, hmissing, by simpa using hfits, ?_⟩
    have hmem : message ∈ missing cache.keys cache'.entries := by
      rw [hmissing]
      exact List.mem_cons_self
    obtain ⟨hcached, hnew⟩ := mem_missing_iff.mp hmem
    rw [h.named_eq_self hsound] at hnew
    rwa [canonical_key_of_isCanonical (h.canonical _ (List.mem_append_right _
      (List.mem_map_of_mem hcached)))]

end Reconciliation

namespace Mesh

variable {mesh : Mesh} {here there : LinkEnd} {cache cache' grown : Cache}

/-- The mesh after so many exchanges, one after the other. -/
def exchanges (mesh : Mesh) (here : LinkEnd) : Nat → Mesh
  | 0 => mesh
  | count + 1 => (mesh.exchange here).exchanges here count

theorem Joins.cache_unique {other : Cache} (h : mesh.Joins here there cache cache')
    (h' : mesh.Joins here there other cache') : cache = other := by
  obtain ⟨station, hstation, hserves⟩ := h.near
  obtain ⟨station', hstation', hserves'⟩ := h'.near
  obtain rfl : station = station' := by rwa [hstation, Option.some.injEq] at hstation'
  rw [← hserves.cache_eq, hserves'.cache_eq]

/-- Neighbours whose queries name everything, the first of which has room for what the other holds. -/
structure CatchesUp (mesh : Mesh) (here there : LinkEnd) (cache cache' : Cache) : Prop where
  joins : mesh.Joins here there cache cache'
  isSound : cache.IsSound
  isSound' : cache'.IsSound
  room : cache.HasRoomFor cache'.keys
  named : Reconciliation.FullyNamed cache cache'

theorem CatchesUp.map_canonical (h : mesh.CatchesUp here there cache cache') :
    cache'.keys.map Key.canonical = cache'.keys :=
  Reconciliation.map_canonical_of_isCanonical fun key hkey =>
    h.named.canonical key (List.mem_append_right _ hkey)

theorem CatchesUp.mem_missing_iff (h : mesh.CatchesUp here there cache cache') {message : Message} :
    message ∈ Reconciliation.missing cache.keys cache'.entries ↔
      message ∈ cache'.entries ∧ message.key ∉ cache.keys := by
  rw [Reconciliation.mem_missing_iff, h.named.named_eq_self h.isSound]

/-- An exchange leaves neighbours as they are, except that the first has grown. -/
theorem CatchesUp.exchange (h : mesh.CatchesUp here there cache cache') :
    ∃ grown, (mesh.exchange here).CatchesUp here there grown cache' ∧
      cache.Grew grown (Reconciliation.offeredKeys cache.keys cache'.entries) := by
  have hsubset : Reconciliation.offeredKeys cache.keys cache'.entries ⊆ cache'.keys := by
    have hoffered := Reconciliation.offeredKeys_subset cache.keys cache'.entries
    rwa [show cache'.entries.map Message.key = cache'.keys from rfl, h.map_canonical] at hoffered
  obtain ⟨grown, hjoins, -, hgrew⟩ :=
    h.joins.exchange h.isSound h.isSound'.kept (h.room.mono hsubset)
  refine ⟨grown, ⟨hjoins, hgrew.isSound, h.isSound', ?_, h.named.grew hgrew hsubset⟩, hgrew⟩
  exact hgrew.hasRoomFor (h.room.mono (List.append_subset.mpr ⟨hsubset, List.Subset.refl _⟩))

/-- As long as all that is missing fits, exchanges bring it. -/
theorem CatchesUp.exists_exchanges (h : mesh.CatchesUp here there cache cache')
    (hfits : ∀ message ∈ cache'.entries, message.key ∉ cache.keys →
      countLength + message.encodedLength ≤ Update.maxDataLength) :
    ∃ count grown, (mesh.exchanges here count).Joins here there grown cache' ∧
      cache'.keys ⊆ grown.keys := by
  -- What is left of the room in the cache becomes less with every exchange.
  induction hleft : cache.capacity - cache.size using Nat.strong_induction_on
    generalizing mesh cache with
  | _ left ih =>
  cases hmissing : Reconciliation.missing cache.keys cache'.entries with
  | nil =>
    refine ⟨0, cache, h.joins, fun key hkey => ?_⟩
    obtain ⟨message, hmessage, rfl⟩ := List.mem_map.mp hkey
    by_contra hnew
    have hmem := h.mem_missing_iff.mpr ⟨hmessage, hnew⟩
    rw [hmissing] at hmem
    cases hmem
  | cons message others =>
    obtain ⟨grown, hgrown, hgrew⟩ := h.exchange
    have hmem : message ∈ Reconciliation.missing cache.keys cache'.entries := by
      rw [hmissing]
      exact List.mem_cons_self
    obtain ⟨hmessage, hnew⟩ := h.mem_missing_iff.mp hmem
    have hfirst : ∃ message ∈ (Reconciliation.missing cache.keys cache'.entries).head?,
        countLength + message.encodedLength ≤ Update.maxDataLength :=
      ⟨message, by rw [hmissing]; rfl, hfits message hmessage hnew⟩
    obtain ⟨key, hcame, hkey⟩ := (h.named.enlarges_iff h.isSound hgrew).mpr hfirst
    have hsize : cache.size < grown.size := hgrew.size_lt hcame hkey
    have hle := hgrown.isSound.size_le
    have hcapacity := hgrew.capacity
    obtain ⟨count, reached, hreached, hall⟩ := ih (grown.capacity - grown.size) (by omega) hgrown
      (fun message hmessage hnew' => hfits message hmessage fun hold =>
        hnew' (hgrew.kept.subset hold)) rfl
    exact ⟨count + 1, reached, hreached, hall⟩

/-- A message that does not fit never comes. -/
theorem CatchesUp.fits_of_exchanges (h : mesh.CatchesUp here there cache cache') {count : Nat}
    (hjoins : (mesh.exchanges here count).Joins here there grown cache')
    (hall : cache'.keys ⊆ grown.keys) :
    ∀ message ∈ cache'.entries, message.key ∉ cache.keys →
      countLength + message.encodedLength ≤ Update.maxDataLength := by
  induction count generalizing mesh cache with
  | zero =>
    obtain rfl := h.joins.cache_unique hjoins
    intro message hmessage hnew
    exact absurd (hall (List.mem_map_of_mem hmessage)) hnew
  | succ count ih =>
    obtain ⟨between, hbetween, hgrew⟩ := h.exchange
    intro message hmessage hnew
    by_cases hcame : message.key ∈ between.keys
    · -- It came in this exchange, so it was offered, and what is offered fits.
      have hoffered := ((hgrew.mem_iff _).mp hcame).resolve_left hnew
      obtain ⟨offered, hoffer, hkey⟩ := List.mem_map.mp hoffered
      have hheld := Reconciliation.mem_cached_of_mem_offered hoffer
      rw [Reconciliation.canonical_key_of_isCanonical (h.named.canonical _
        (List.mem_append_right _ (List.mem_map_of_mem hheld)))] at hkey
      obtain rfl := List.inj_on_of_nodup_map h.isSound'.nodup hheld hmessage hkey
      exact Reconciliation.length_le_of_mem_answerTo hoffer
    · exact ih hbetween hjoins message hmessage hcame

/-- **What exchanges bring.** Two neighbours hold what they took in on request, and the first has room
for what the other holds. One exchange brings the first what it is offered, which is something new
exactly if there is a message under a new key that fits together with all it is missing before that.
If queries name everything, the first missing message decides, and finitely many exchanges bring all
keys exactly if each missing message fits an answer by itself. -/
theorem exchange_progress {mesh : Mesh} {here there : LinkEnd} {cache cache' : Cache}
    (hjoins : mesh.Joins here there cache cache') (hsound : cache.IsSound) (hsound' : cache'.IsSound)
    (hroom : cache.HasRoomFor (cache'.keys.map Key.canonical)) :
    (∃ grown, (mesh.exchange here).Joins here there grown cache' ∧
      (mesh.exchange here).inFlight = mesh.inFlight ∧
      cache.Grew grown (Reconciliation.offeredKeys cache.keys cache'.entries) ∧
      ((∃ key ∈ grown.keys, key ∉ cache.keys) ↔ ∃ before message after,
        Reconciliation.missing cache.keys cache'.entries = before ++ message :: after ∧
          countLength + ((before ++ [message]).map Message.encodedLength).sum ≤
            Update.maxDataLength ∧
          message.key.canonical ∉ cache.keys) ∧
      (Reconciliation.FullyNamed cache cache' → ((∃ key ∈ grown.keys, key ∉ cache.keys) ↔
        ∃ message ∈ (Reconciliation.missing cache.keys cache'.entries).head?,
          countLength + message.encodedLength ≤ Update.maxDataLength))) ∧
    (Reconciliation.FullyNamed cache cache' →
      ((∃ count grown, (mesh.exchanges here count).Joins here there grown cache' ∧
          cache'.keys ⊆ grown.keys) ↔
        ∀ message ∈ cache'.entries, message.key ∉ cache.keys →
          countLength + message.encodedLength ≤ Update.maxDataLength)) := by
  refine ⟨?_, fun hnamed => ?_⟩
  · obtain ⟨grown, hjoins', hflights, hgrew⟩ := hjoins.exchange hsound hsound'.kept
      (hroom.mono (Reconciliation.offeredKeys_subset cache.keys cache'.entries))
    exact ⟨grown, hjoins', hflights, hgrew, Reconciliation.enlarges_iff hgrew,
      fun hnamed => hnamed.enlarges_iff hsound hgrew⟩
  · have hcanonical : cache'.keys.map Key.canonical = cache'.keys :=
      Reconciliation.map_canonical_of_isCanonical fun key hkey =>
        hnamed.canonical key (List.mem_append_right _ hkey)
    rw [hcanonical] at hroom
    have h : mesh.CatchesUp here there cache cache' := ⟨hjoins, hsound, hsound', hroom, hnamed⟩
    constructor
    · rintro ⟨count, grown, hreached, hall⟩
      exact h.fits_of_exchanges hreached hall
    · exact h.exists_exchanges

/-! ## A backlog -/

/-- What a neighbour took in: a message too long for any answer, and a short one behind it. -/
def backlogRequests : List Request :=
  let source := Contact.ofLetter 67
  [.add (Message.make source 1 .cq (List.replicate 70000 0)), .add (Message.make source 2 .cq [1])]

/-- Two stations with a reconciler each. The first holds nothing, the second a backlog. -/
def backlog : Mesh :=
  let station (callsign : UInt8) : Station := (Station.ofNode (.new (.ofLetter callsign)
    { cacheSize := 4, queueSize := 2 } 1)).registerReconciler.1
  let holding := station 66
  let engine := holding.node.engine.afterAll backlogRequests
  ofStations [station 65, { holding with node := { holding.node with engine } }] [(0, 1)]

/-- The cache with the backlog. -/
def backlogCache : Cache :=
  (Engine.afterAll (.new (.ofLetter 66) 4 false) backlogRequests).cache

theorem joins_backlog : backlog.Joins ⟨0, ⟨1⟩⟩ ⟨1, ⟨1⟩⟩ (.empty 4) backlogCache where
  drained := by
    have hempty : ∀ station ∈ backlog.stations, ∀ peer ∈ station.node.peers,
        peer.outbox.contents = [] := by decide +kernel
    intro index station hstation peer hpeer _
    exact hempty station (List.mem_of_getElem? hstation) peer hpeer
  near := by
    refine ⟨backlog.stations[0], rfl, ⟨rfl, ⟨0, ?_, rfl⟩, ⟨0, ?_, rfl⟩⟩, ?_, ?_, rfl⟩
    all_goals decide +kernel
  far := by
    refine ⟨backlog.stations[1], rfl, ⟨rfl, ⟨0, ?_, rfl⟩, ⟨0, ?_, rfl⟩⟩, ?_, ?_, rfl⟩
    all_goals decide +kernel
  distinct := by decide
  link := by decide +kernel
  back := by decide +kernel

/-- The long message holds up the short one: no exchange brings anything, however many there are. -/
theorem exchange_progress_backlog :
    backlog.Joins ⟨0, ⟨1⟩⟩ ⟨1, ⟨1⟩⟩ (.empty 4) backlogCache ∧ (Cache.empty 4).IsSound ∧
      backlogCache.IsSound ∧ (Cache.empty 4).HasRoomFor (backlogCache.keys.map Key.canonical) ∧
      Reconciliation.FullyNamed (.empty 4) backlogCache ∧
      (∃ grown, (backlog.exchange ⟨0, ⟨1⟩⟩).Joins ⟨0, ⟨1⟩⟩ ⟨1, ⟨1⟩⟩ grown backlogCache ∧
        ¬ ∃ key ∈ grown.keys, key ∉ (Cache.empty 4).keys) ∧
      ¬ ∃ count grown, (backlog.exchanges ⟨0, ⟨1⟩⟩ count).Joins ⟨0, ⟨1⟩⟩ ⟨1, ⟨1⟩⟩ grown backlogCache ∧
        backlogCache.keys ⊆ grown.keys := by
  have hsound : (Cache.empty 4).IsSound := Cache.isSound_empty 4
  have hsound' : backlogCache.IsSound := Engine.isSound_afterAll (Cache.isSound_empty 4) _
  have hroom : (Cache.empty 4).HasRoomFor (backlogCache.keys.map Key.canonical) := by
    rw [Cache.HasRoomFor]
    decide +kernel
  have hnamed : Reconciliation.FullyNamed (.empty 4) backlogCache := by
    have hcanonical : ∀ key ∈ (Cache.empty 4).keys ++ backlogCache.keys,
        key.source.canonical = key.source := by decide +kernel
    exact ⟨fun key hkey => Contact.canonical_eq_self_iff.mp (hcanonical key hkey),
      by decide +kernel⟩
  obtain ⟨⟨grown, hjoins, -, -, -, hprogress⟩, hall⟩ :=
    exchange_progress joins_backlog hsound hsound' hroom
  have hlong : ∀ message ∈ backlogCache.entries.head?,
      ¬ countLength + message.encodedLength ≤ Update.maxDataLength := by
    intro message hmessage hfits
    have hpayload : message.payload = List.replicate 70000 0 := by
      obtain rfl := Option.some.inj hmessage
      rfl
    simp only [Message.encodedLength, hpayload, List.length_replicate,
      Update.maxDataLength] at hfits
    omega
  refine ⟨joins_backlog, hsound, hsound', hroom, hnamed, ⟨grown, hjoins, ?_⟩, ?_⟩
  · rw [hprogress hnamed]
    rintro ⟨message, hmessage, hfits⟩
    exact hlong message hmessage hfits
  · rw [hall hnamed]
    intro hfits
    obtain ⟨message, hmessage⟩ : ∃ message, backlogCache.entries.head? = some message := ⟨_, rfl⟩
    exact hlong message hmessage
      (hfits message (List.mem_of_mem_head? hmessage) List.not_mem_nil)

end Mesh

end RadioGossip
