import RadioGossip.Proofs.ContactRecords
import RadioGossip.Proofs.Paths
import RadioGossip.Settings.Basic

/-!
# What settings make of a station

Valid settings name a station by a **callsign** that may stand in paths and that a contact has room
for. They may list more addresses than that. So the station has an identity exactly when they are at
most 255, and otherwise there is none, although the settings are valid.

An identity tells what the settings say: over the wire come the callsign and the addresses, in order.
It comes back as it was unless the settings spell a kind with a name as an unnamed one.
-/

namespace RadioGossip

/-! ## Addresses -/

namespace IpRecord

theorem address?_ofAddress (address : IpAddress) : (ofAddress address).address? = some address := by
  cases address with
  | v4 a b c d => exact IpAddress.ofV4Octets?_octets a b c d
  | v6 a b c d e f g h => exact IpAddress.ofV6Octets?_octets a b c d e f g h

theorem isCanonical_ofAddress (address : IpAddress) : (ofAddress address).IsCanonical := by
  intro tag htag
  cases address <;> cases htag

end IpRecord

namespace Contact

variable {contact : Contact} {records : List IpRecord}

theorem make_of_le (kind : StationKind) {callsign : Bytes}
    (h : callsign.length ≤ maxFieldLength) :
    make kind callsign = .ok ⟨kind, callsign, [], h, Nat.zero_le _⟩ := dif_pos h

theorem withIp_of_le {record : IpRecord} (h : (contact.ips ++ [record]).length ≤ maxFieldLength) :
    contact.withIp record = .ok { contact with ips := contact.ips ++ [record], ips_le := h } :=
  dif_pos h

/-- Records for which there is room are added in order. -/
theorem withIps_of_le (h : (contact.ips ++ records).length ≤ maxFieldLength) :
    contact.withIps records = .ok { contact with ips := contact.ips ++ records, ips_le := h } := by
  induction records generalizing contact with
  | nil =>
    simp only [List.append_nil]
    rfl
  | cons record records ih =>
    have hsplit : contact.ips ++ record :: records = (contact.ips ++ [record]) ++ records := by simp
    have hroom : (contact.ips ++ [record]).length ≤ maxFieldLength := by
      rw [hsplit, List.length_append] at h
      omega
    have hrest := @ih { contact with ips := contact.ips ++ [record], ips_le := hroom }
      (by rwa [hsplit] at h)
    rw [withIps, List.foldlM_cons, withIp_of_le hroom]
    refine hrest.trans ?_
    simp only [List.append_assoc, List.singleton_append]

/-- The first record without room is one too many. -/
theorem withIps_of_lt (h : maxFieldLength < (contact.ips ++ records).length) :
    contact.withIps records = .error (.tooLong .ipList (maxFieldLength + 1) maxFieldLength) := by
  induction records generalizing contact with
  | nil =>
    rw [List.append_nil] at h
    exact absurd contact.ips_le (Nat.not_le.mpr h)
  | cons record records ih =>
    rw [withIps, List.foldlM_cons]
    by_cases hroom : (contact.ips ++ [record]).length ≤ maxFieldLength
    · rw [withIp_of_le hroom]
      exact ih (by simpa using h)
    · have hfull : contact.ips.length + 1 = maxFieldLength + 1 := by
        have hle := contact.ips_le
        rw [List.length_append, List.length_singleton] at hroom
        omega
      have hrefused : contact.withIp record =
          .error (.tooLong .ipList (contact.ips.length + 1) maxFieldLength) := dif_neg hroom
      rw [hrefused, hfull]
      rfl

/-- A contact to which records were added has those it had and these, in order. -/
theorem ips_of_withIps_eq_ok {result : Contact} (h : contact.withIps records = .ok result) :
    result.ips = contact.ips ++ records := by
  rcases Nat.lt_or_ge maxFieldLength (contact.ips ++ records).length with hlt | hle
  · rw [withIps_of_lt hlt] at h
    cases h
  · rw [withIps_of_le hle] at h
    obtain rfl := Except.ok.inj h
    rfl

end Contact

/-! ## Settings -/

namespace StationSection

variable {station : StationSection}

/-- A short callsign is an identity, and the addresses are added to it. -/
theorem contact_eq_withIps (h : (Text.utf8 station.callsign).length ≤ maxFieldLength) :
    station.contact =
      Contact.withIps ⟨station.kind, Text.utf8 station.callsign, [], h, Nat.zero_le _⟩
        (station.ips.map IpRecord.ofAddress) := by
  rw [contact, Contact.make_of_le station.kind h]
  rfl

/-- A contact of a station with few addresses has what the settings say. -/
theorem contact_of_le (hcallsign : station.callsign.utf8ByteSize ≤ maxFieldLength)
    (hips : station.ips.length ≤ maxFieldLength) :
    ∃ contact : Contact, station.contact = .ok contact ∧ contact.kind = station.kind ∧
      contact.callsign = Text.utf8 station.callsign ∧
      contact.ips = station.ips.map IpRecord.ofAddress := by
  rw [← Text.length_utf8] at hcallsign
  have hroom : ([] ++ station.ips.map IpRecord.ofAddress).length ≤ maxFieldLength := by
    rwa [List.nil_append, List.length_map]
  rw [contact_eq_withIps hcallsign]
  exact ⟨_, Contact.withIps_of_le hroom, rfl, rfl, rfl⟩

/-- A station with many addresses has no contact. -/
theorem contact_of_lt (hcallsign : station.callsign.utf8ByteSize ≤ maxFieldLength)
    (hips : maxFieldLength < station.ips.length) :
    station.contact = .error (.tooLong .ipList (maxFieldLength + 1) maxFieldLength) := by
  rw [← Text.length_utf8] at hcallsign
  rw [contact_eq_withIps hcallsign]
  apply Contact.withIps_of_lt
  rwa [List.nil_append, List.length_map]

/-- Whatever the settings of a station say, the addresses of its contact are those of the settings. -/
theorem ips_of_contact_eq_ok {contact : Contact} (h : station.contact = .ok contact) :
    contact.ips = station.ips.map IpRecord.ofAddress := by
  by_cases hcallsign : (Text.utf8 station.callsign).length ≤ maxFieldLength
  · rw [contact_eq_withIps hcallsign] at h
    exact Contact.ips_of_withIps_eq_ok h
  · simp [StationSection.contact, Contact.make, hcallsign, bind, Except.bind] at h

end StationSection

namespace Settings

variable {settings : Settings}

/-- What valid settings are. -/
structure IsValid (settings : Settings) : Prop where
  named : Text.isBlank settings.station.callsign = false
  short : settings.station.callsign.utf8ByteSize ≤ maxFieldLength
  separator_not_mem : Path.separator ∉ settings.station.callsign.toList
  cache : settings.node.logic.cacheSize ≠ 0
  queue : settings.node.peerQueueSize ≠ 0
  interval : settings.node.reconnectInterval ≠ 0
  link : settings.node.settings.link.validate = .ok ()

theorem validate_eq_ok_iff : settings.validate = .ok () ↔ settings.IsValid := by
  constructor
  · intro h
    simp only [validate] at h
    split at h
    · cases h
    split at h
    · cases h
    split at h
    · cases h
    split at h
    · cases h
    split at h
    · cases h
    split at h
    · cases h
    split at h
    · next hnamed hshort hseparator hcache hqueue hinterval _ hlink =>
      exact ⟨Bool.eq_false_iff.mpr hnamed, Nat.not_lt.mp hshort, by simpa using hseparator, hcache,
        hqueue, hinterval, hlink⟩
    · cases h
  · intro h
    simp [validate, h.named, Nat.not_lt.mpr h.short, h.separator_not_mem, h.cache, h.queue,
      h.interval, h.link]

/-- The callsign of valid settings may stand in paths. -/
theorem IsValid.isCallsign (h : settings.IsValid) : Path.IsCallsign settings.station.callsign where
  nonempty hempty := by
    have hnamed := h.named
    rw [hempty] at hnamed
    cases hnamed
  separator_not_mem := h.separator_not_mem

/-- **The identity of a station.** Valid settings give a contact exactly when they list at most 255
addresses; if they list more, the list is refused as one too long. The contact is named by the
callsign of the settings, and this may stand in paths. What is read when it comes over the wire has
the bytes of that callsign and the addresses of the settings, in order, and it is the contact itself
exactly when the settings name the kind of the station by its name. -/
theorem identity_of_valid (hvalid : settings.validate = .ok ()) :
    ((∃ contact, settings.contact = .ok contact) ↔ settings.station.ips.length ≤ 255) ∧
    (255 < settings.station.ips.length →
      settings.contact = .error (.contact (.tooLong .ipList 256 255))) ∧
    ∀ contact, settings.contact = .ok contact →
      contact.callsignText = settings.station.callsign ∧
      Path.IsCallsign settings.station.callsign ∧
      ∃ read, Contact.decode contact.encode = .ok read ∧
        read.callsign = Text.utf8 settings.station.callsign ∧
        read.ips.map IpRecord.address? = settings.station.ips.map some ∧
        (read = contact ↔ settings.station.kind.IsCanonical) := by
  have h := validate_eq_ok_iff.mp hvalid
  have hrefused : 255 < settings.station.ips.length →
      settings.contact = .error (.contact (.tooLong .ipList 256 255)) := fun hips => by
    rw [contact, StationSection.contact_of_lt h.short hips]
    rfl
  have hfew : ∀ contact, settings.contact = .ok contact → settings.station.ips.length ≤ 255 := by
    intro contact hcontact
    refine Nat.not_lt.mp fun hips => ?_
    rw [hrefused hips] at hcontact
    cases hcontact
  refine ⟨⟨fun ⟨contact, hcontact⟩ => hfew contact hcontact, fun hips => ?_⟩, hrefused,
    fun contact hcontact => ?_⟩
  · obtain ⟨contact, hcontact, -⟩ := StationSection.contact_of_le h.short hips
    exact ⟨contact, by rw [Settings.contact, hcontact]⟩
  · obtain ⟨other, hother, hkind, hcallsign, hips⟩ :=
      StationSection.contact_of_le h.short (hfew contact hcontact)
    rw [Settings.contact, hother] at hcontact
    obtain rfl := Except.ok.inj hcontact
    refine ⟨?_, h.isCallsign, other.canonical, other.decode_encode, hcallsign, ?_, ?_⟩
    · rw [Contact.callsignText, hcallsign, Text.ofBytes_utf8]
    · have hrecords : other.ips.map IpRecord.canonical = other.ips := by
        rw [hips, List.map_map]
        exact List.map_congr_left fun address _ =>
          IpRecord.canonical_eq_self_iff.mpr (IpRecord.isCanonical_ofAddress address)
      show (other.ips.map IpRecord.canonical).map IpRecord.address? = _
      rw [hrecords, hips, List.map_map]
      exact List.map_congr_left fun address _ => IpRecord.address?_ofAddress address
    · rw [Contact.canonical_eq_self_iff, Contact.IsCanonical, hkind, hips]
      refine and_iff_left fun record hrecord => ?_
      obtain ⟨address, -, rfl⟩ := List.mem_map.mp hrecord
      exact IpRecord.isCanonical_ofAddress address

/-- Valid settings that list an address too many, and valid settings that spell the kind of a mobile
user as an unnamed one. The first have no contact, and the contact of the second is not what comes
back from the wire. -/
theorem identity_of_valid_crowded_and_unnamed :
    let crowded : Settings :=
      { station := { callsign := "A", ips := List.replicate 256 (.v4 10 0 0 1) } }
    let unnamed : Settings :=
      { station := { callsign := "A", kind := .other 0, ips := [.v4 10 0 0 1] } }
    crowded.validate = .ok () ∧
      crowded.contact = .error (.contact (.tooLong .ipList 256 255)) ∧
      unnamed.validate = .ok () ∧
      ∃ contact read, unnamed.contact = .ok contact ∧ Contact.decode contact.encode = .ok read ∧
        read ≠ contact := by
  intro crowded unnamed
  have hnamed : Text.isBlank "A" = false := by decide +kernel
  have hshort : "A".utf8ByteSize ≤ maxFieldLength := by decide +kernel
  have hseparator : Path.separator ∉ "A".toList := by decide +kernel
  have hcache : (1000 : UInt64) ≠ 0 := by decide
  have hqueue : (100 : UInt64) ≠ 0 := by decide
  have hinterval : (10 : UInt64) ≠ 0 := by decide
  have hvalid : ∀ kind ips,
      ({ station := { callsign := "A", kind, ips } } : Settings).validate = .ok () :=
    fun kind ips =>
      validate_eq_ok_iff.mpr ⟨hnamed, hshort, hseparator, hcache, hqueue, hinterval, rfl⟩
  have hcrowded : crowded.validate = .ok () := hvalid _ _
  have hunnamed : unnamed.validate = .ok () := hvalid _ _
  have hlength : crowded.station.ips.length = 256 := List.length_replicate
  obtain ⟨-, hrefused, -⟩ := identity_of_valid hcrowded
  obtain ⟨hexists, -, hidentity⟩ := identity_of_valid hunnamed
  obtain ⟨contact, hcontact⟩ := hexists.mpr (by decide)
  obtain ⟨-, -, read, hread, -, -, hsame⟩ := hidentity contact hcontact
  have hkind : ¬ StationKind.IsCanonical (.other 0) := by
    rw [← StationKind.canonical_eq_self_iff]
    decide
  exact ⟨hcrowded, hrefused (by rw [hlength]; decide), hunnamed, contact, read, hcontact, hread,
    fun heq => hkind (hsame.mp heq)⟩

end Settings

end RadioGossip
