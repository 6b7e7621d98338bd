import RadioGossip.Proofs.Acknowledgements
import RadioGossip.Proofs.Framing
import RadioGossip.Proofs.Offers
import RadioGossip.Proofs.StationIdentity

/-!
# What a node sends by itself

Three kinds of messages start in a node without anybody asking for them by name: it asks a neighbour
for what it does not hold, it answers such a query, and it acknowledges a message. The size of each is
limited by what it is made of. An update holds 65535 bytes of data, the contact in an acknowledgement
has 65793 bytes at most, and a station whose contact comes from settings announces no address of more
than sixteen octets, so that its own contact is short.

So all of them are **modest**: twice as long they would still be within the default bound on frames,
and no more than that is made of them on a link even if each of their bytes needs an escape.
-/

namespace RadioGossip

/-! ## Frames -/

namespace Frame

/-- Escapes at most double a payload. -/
theorem wrappedLength_le (payload : Bytes) : wrappedLength payload ≤ 2 + 2 * payload.length := by
  have hreserved : payload.countP isReserved ≤ payload.length := List.countP_le_length
  rw [wrappedLength]
  omega

/-- A payload that is within the default bound even if each of its bytes needs an escape. -/
structure IsModest (payload : Bytes) : Prop where
  double_le : 2 + 2 * payload.length ≤ 262144
  wrappedLength_le : wrappedLength payload ≤ 262144
  encode : encode defaultBound payload = .ok (wrap payload)

theorem isModest_of_length_le {payload : Bytes} (h : payload.length ≤ 131071) :
    IsModest payload := by
  have hwrapped := wrappedLength_le payload
  exact ⟨by omega, by omega, encode_of_le (by simp only [defaultBound]; omega)⟩

end Frame

/-! ## The contact of a station -/

/-- An address has four or sixteen octets. -/
theorem IpAddress.length_octets_le (address : IpAddress) : address.octets.length ≤ 16 := by
  cases address <;> simp [octets, groupOctets]

theorem IpRecord.octets_ofAddress (address : IpAddress) :
    (ofAddress address).octets = address.octets := by
  cases address <;> rfl

/-- What a station announces of itself is short. -/
theorem Settings.encodedLength_contact_le {settings : Settings} {contact : Contact}
    (h : settings.contact = .ok contact) : contact.encodedLength ≤ 4848 := by
  have hstation : settings.station.contact = .ok contact := by
    rw [Settings.contact] at h
    split at h
    · next other hother =>
      obtain rfl := Except.ok.inj h
      exact hother
    · cases h
  have hoctets : ∀ record ∈ contact.ips, record.octets.length ≤ 16 := by
    intro record hrecord
    rw [StationSection.ips_of_contact_eq_ok hstation] at hrecord
    obtain ⟨address, -, rfl⟩ := List.mem_map.mp hrecord
    rw [IpRecord.octets_ofAddress]
    exact address.length_octets_le
  exact Contact.encodedLength_le_of_forall hoctets

/-! ## Updates and acknowledgements -/

namespace Reconciliation

variable {node : Node} {update : Update}

theorem isModest_carrier (hself : node.self.encodedLength ≤ 4848)
    (h : update.data.length ≤ Update.maxDataLength) : Frame.IsModest (carrier node update).record := by
  apply Frame.isModest_of_length_le
  rw [Message.length_record, encodedLength_carrier]
  simp only [Update.maxDataLength] at h
  omega

end Reconciliation

namespace Engine

variable {engine : Engine}

theorem isModest_acknowledgement (hself : engine.self.encodedLength ≤ 4848) (message : Message) :
    Frame.IsModest (engine.acknowledgement message).record := by
  apply Frame.isModest_of_length_le
  have hpath := engine.length_path_acknowledgement_le message
  have hpayload := engine.length_payload_acknowledgement_le message
  have hsource : (engine.acknowledgement message).source = engine.self := rfl
  rw [Message.length_record, Message.encodedLength, hsource]
  simp only [maxFieldLength] at hpath
  simp only [Contact.maxEncodedLength] at hpayload
  omega

end Engine

namespace Node

variable {settings : Settings} {node : Node}

/-- **All that a node sends by itself fits.** A node whose contact comes from settings, whatever it
has in its cache, can always write the query for a peer that connects, the answer to a query that it
can read, and the acknowledgement of a message that it accepts and that asks for one. Each of them
goes out, and none is ever refused for its size by a link with the default bound on frames, which it
would not exceed if each of its bytes needed an escape. -/
theorem own_frames_fit (hself : settings.contact = .ok node.self) :
    (∀ stats peer, ∃ frame, (Reconciliation.question node).encode = .ok frame ∧
      Reconciliation.peerConnected stats node peer =
        ({ stats with queries := stats.queries + 1 }, node.drawSequence.1.queue peer frame) ∧
      Frame.IsModest frame) ∧
    (∀ stats peer message data query, message.kind = .update →
      Update.decode message.payload = .ok ⟨.cacheRequest, data⟩ →
      CacheQuery.decode data = .ok query →
      ∃ frame, (Reconciliation.response node query).encode = .ok frame ∧
        Reconciliation.observe stats node ⟨message, some peer⟩ =
          ({ stats with answers := stats.answers + 1 }, node.drawSequence.1.queue peer frame) ∧
        Frame.IsModest frame) ∧
    ∀ raw message, Message.decode raw = .ok message → node.engine.IsNews message →
      message.isAckRequested = true →
      ∃ frame, (node.engine.acknowledgement message).encode = .ok frame ∧
        node.engine.repliesTo raw = [frame] ∧ Frame.IsModest frame := by
  have hshort := Settings.encodedLength_contact_le hself
  refine ⟨fun stats peer => ?_, fun stats peer message data query hkind hupdate hquery => ?_,
    fun raw message hraw hnews hrequested => ?_⟩
  · have hlength := Reconciliation.length_record_queryOf_le node.engine.cache.keys
    exact ⟨_, Message.encode_of_fits (Reconciliation.fits_carrier hlength),
      Reconciliation.peerConnected_eq stats node peer,
      Reconciliation.isModest_carrier hshort hlength⟩
  · have hlength := Reconciliation.length_record_answerTo_le query node.cached
    exact ⟨_, Message.encode_of_fits (Reconciliation.fits_carrier hlength),
      Reconciliation.observe_of_react_eq_ok hkind (Reconciliation.react_of_query hupdate hquery),
      Reconciliation.isModest_carrier hshort hlength⟩
  · exact ⟨_, Message.encode_of_fits (node.engine.fits_acknowledgement message),
      Engine.repliesTo_of_news hraw hnews hrequested,
      Engine.isModest_acknowledgement hshort message⟩

/-- A station hears from a neighbour whose callsign is nothing but reserved bytes, first a message
that asks for an acknowledgement, then a query that names this message. -/
theorem own_frames_fit_reserved_callsign :
    let settings : Settings := { station := { callsign := "A", ips := [.v4 10 0 0 1] } }
    let self : Contact := ⟨.fixed, [65], [.ofAddress (.v4 10 0 0 1)], by decide, by decide⟩
    let node := Node.new self {} 0
    let source : Contact := ⟨.user, [0xEB, 0xAA, 0xAB], [], by decide, by decide⟩
    let message : Message := { Message.make source 7 .cq [] with flags := Message.ackFlag }
    let query : CacheQuery := ⟨[message.key]⟩
    let request := Message.make source 8 .update (Update.record ⟨.cacheRequest, query.record⟩)
    settings.contact = .ok node.self ∧ node.engine.IsNews message ∧
      (∃ frame, node.engine.repliesTo message.record = [frame] ∧ Frame.IsModest frame) ∧
      (∃ frame, Reconciliation.observe {} node ⟨request, some ⟨1⟩⟩ =
        ({ answers := 1 }, node.drawSequence.1.queue ⟨1⟩ frame) ∧ Frame.IsModest frame) ∧
      ∃ frame, Reconciliation.peerConnected {} node ⟨1⟩ =
        ({ queries := 1 }, node.drawSequence.1.queue ⟨1⟩ frame) ∧ Frame.IsModest frame := by
  intro settings self node source message query request
  have hself : settings.contact = .ok node.self := by decide +kernel
  have hraw : Message.decode message.record = .ok message := by decide +kernel
  have hnews : node.engine.IsNews message :=
    ⟨by decide +kernel, by decide +kernel, by decide +kernel⟩
  have hupdate : Update.decode request.payload = .ok ⟨.cacheRequest, query.record⟩ := by
    decide +kernel
  have hquery : CacheQuery.decode query.record = .ok query := by decide +kernel
  obtain ⟨hasks, hanswers, hconfirms⟩ := own_frames_fit hself
  obtain ⟨asked, -, hasked, hmodest⟩ := hasks {} ⟨1⟩
  obtain ⟨answered, -, hanswered, hmodest'⟩ :=
    hanswers {} ⟨1⟩ request query.record query rfl hupdate hquery
  have hrequested : message.isAckRequested = true := by decide
  obtain ⟨confirmed, -, hconfirmed, hmodest''⟩ :=
    hconfirms message.record message hraw hnews hrequested
  exact ⟨hself, hnews, ⟨confirmed, hconfirmed, hmodest''⟩, ⟨answered, hanswered, hmodest'⟩,
    asked, hasked, hmodest⟩

end Node

end RadioGossip
