import Mathlib.Algebra.Order.BigOperators.Group.List
import Mathlib.Algebra.Order.Ring.Nat
import RadioGossip.Proofs.Reactions

/-!
# What neighbours ask and offer

A query **names** the keys that a station holds, from the oldest on, as many as fit one update; on
the wire they take their canonical form. What is **missing** from the asking side is what the other
side holds under keys that the query does not name, and of that an answer **offers** the oldest
messages, again as many as fit one update. The first of them that does not fit ends the offer: those
behind it are not looked at.

Whatever two stations hold, the query and the answer can always be written, so a query that comes to
a reconciler is always answered.
-/

namespace RadioGossip

namespace Reconciliation

/-! ## Fitting

Keys and messages are taken by loops of the same shape, which look at nothing but sizes.
-/

/-- How many entries of these sizes fit behind `used` bytes of one update, up to the first that does
not. -/
def fittingSizes (used : Nat) : List Nat → Nat
  | [] => 0
  | size :: sizes =>
    if Update.maxDataLength < used + size then 0 else fittingSizes (used + size) sizes + 1

theorem fittingSizes_le_length (used : Nat) (sizes : List Nat) :
    fittingSizes used sizes ≤ sizes.length := by
  induction sizes generalizing used with
  | nil => exact Nat.le_refl 0
  | cons size sizes ih =>
    rw [fittingSizes]
    split
    · exact Nat.zero_le _
    · exact Nat.succ_le_succ (ih _)

/-- **Entries fit** when they fit together. -/
theorem le_fittingSizes_iff {used count : Nat} {sizes : List Nat} (hused : used ≤ Update.maxDataLength)
    (hcount : count ≤ sizes.length) :
    count ≤ fittingSizes used sizes ↔ used + (sizes.take count).sum ≤ Update.maxDataLength := by
  induction sizes generalizing used count with
  | nil =>
    obtain rfl := Nat.le_zero.mp hcount
    exact iff_of_true (Nat.zero_le _) hused
  | cons size sizes ih =>
    cases count with
    | zero => exact iff_of_true (Nat.zero_le _) hused
    | succ count =>
      rw [fittingSizes, List.take_succ_cons, List.sum_cons, ← Nat.add_assoc]
      split
      · next hlong => omega
      · next hfits =>
        rw [Nat.succ_le_succ_iff]
        exact ih (Nat.not_lt.mp hfits) (Nat.le_of_succ_le_succ hcount)

theorem fittingFrom_eq (used : Nat) (keys : List Key) :
    fittingFrom used keys = fittingSizes used (keys.map CacheQuery.keyLength) := by
  induction keys generalizing used with
  | nil => rfl
  | cons key keys ih => rw [fittingFrom, List.map_cons, fittingSizes, ih]

theorem fittingMessages_eq (used : Nat) (messages : List Message) :
    fittingMessages used messages =
      messages.take (fittingSizes used (messages.map Message.encodedLength)) := by
  induction messages generalizing used with
  | nil => rfl
  | cons message messages ih =>
    rw [fittingMessages, List.map_cons, fittingSizes]
    split
    · rfl
    · rw [ih, List.take_succ_cons]

theorem fitting_le_length (keys : List Key) : fitting keys ≤ keys.length := by
  rw [fitting, fittingFrom_eq]
  exact (fittingSizes_le_length _ _).trans_eq (List.length_map _)

/-- **Keys fit** when their query fits one update. -/
theorem le_fitting_iff {keys : List Key} {count : Nat} (h : count ≤ keys.length) :
    count ≤ fitting keys ↔
      (CacheQuery.record ⟨keys.take count⟩).length ≤ Update.maxDataLength := by
  rw [fitting, fittingFrom_eq, CacheQuery.length_record, List.map_take]
  exact le_fittingSizes_iff (by decide) (h.trans_eq (List.length_map _).symm)

/-- **Messages fit** when they are at the front and fit together. -/
theorem isPrefix_fittingMessages_iff {front messages : List Message} :
    front <+: fittingMessages countLength messages ↔ front <+: messages ∧
      countLength + (front.map Message.encodedLength).sum ≤ Update.maxDataLength := by
  rw [fittingMessages_eq, List.prefix_take_iff]
  refine and_congr_right ?_
  rintro ⟨others, rfl⟩
  have htake : ((front ++ others).map Message.encodedLength).take front.length =
      front.map Message.encodedLength := by
    rw [← List.map_take, List.take_left]
  rw [le_fittingSizes_iff (by decide) (by simp), htake]

theorem fittingMessages_isPrefix (messages : List Message) :
    fittingMessages countLength messages <+: messages :=
  (isPrefix_fittingMessages_iff.mp List.prefix_rfl).1

theorem sum_fittingMessages_le (messages : List Message) :
    countLength + ((fittingMessages countLength messages).map Message.encodedLength).sum ≤
      Update.maxDataLength :=
  (isPrefix_fittingMessages_iff.mp List.prefix_rfl).2

/-- If all messages fit, none is left out. -/
theorem fittingMessages_eq_self {messages : List Message}
    (h : countLength + (messages.map Message.encodedLength).sum ≤ Update.maxDataLength) :
    fittingMessages countLength messages = messages := by
  have hall : messages <+: fittingMessages countLength messages :=
    isPrefix_fittingMessages_iff.mpr ⟨List.prefix_rfl, h⟩
  exact (fittingMessages_isPrefix messages).eq_of_length_le hall.length_le

/-- **A message fits** when it fits together with all those before it. -/
theorem mem_fittingMessages_iff {message : Message} {messages : List Message} :
    message ∈ fittingMessages countLength messages ↔ ∃ before after,
      messages = before ++ message :: after ∧
        countLength + ((before ++ [message]).map Message.encodedLength).sum ≤
          Update.maxDataLength := by
  constructor
  · intro hmem
    obtain ⟨before, behind, hsplit⟩ := List.append_of_mem hmem
    have hfront : before ++ [message] <+: fittingMessages countLength messages :=
      ⟨behind, by rw [hsplit, List.append_assoc, List.singleton_append]⟩
    obtain ⟨⟨after, rfl⟩, hle⟩ := isPrefix_fittingMessages_iff.mp hfront
    exact ⟨before, after, by rw [List.append_assoc, List.singleton_append], hle⟩
  · rintro ⟨before, after, rfl, hle⟩
    have hfront : before ++ [message] <+: before ++ message :: after :=
      ⟨after, by rw [List.append_assoc, List.singleton_append]⟩
    have hmem : message ∈ before ++ [message] := List.mem_append_right _ List.mem_cons_self
    exact (isPrefix_fittingMessages_iff.mpr ⟨hfront, hle⟩).subset hmem

/-! ## Asking and offering -/

/-- The keys that a query names when it arrives. -/
def named (keys : List Key) : List Key := (keys.take (fitting keys)).map Key.canonical

/-- What one side holds under keys that a query of the other side, holding these keys, does not
name. -/
def missing (keys : List Key) (cached : List Message) : List Message :=
  cached.filter fun message => !(named keys).any message.hasKey

/-- What is offered to a side that holds these keys. -/
def offered (keys : List Key) (cached : List Message) : List Message :=
  (answerTo ⟨named keys⟩ cached).messages

/-- The keys of what is offered, as they arrive. -/
def offeredKeys (keys : List Key) (cached : List Message) : List Key :=
  (offered keys cached).map fun message => message.key.canonical

theorem offered_eq (keys : List Key) (cached : List Message) :
    offered keys cached = fittingMessages countLength (missing keys cached) := rfl

theorem mem_missing_iff {keys : List Key} {cached : List Message} {message : Message} :
    message ∈ missing keys cached ↔ message ∈ cached ∧ message.key ∉ named keys := by
  have hnamed : (named keys).any message.hasKey = true ↔ message.key ∈ named keys := by
    simp only [List.any_eq_true, Message.hasKey_iff]
    constructor
    · rintro ⟨key, hmem, hkey⟩
      exact hkey ▸ hmem
    · exact fun hmem => ⟨message.key, hmem, rfl⟩
  rw [missing, List.mem_filter, Bool.not_eq_true', Bool.eq_false_iff, Ne, hnamed]

theorem mem_cached_of_mem_offered {keys : List Key} {cached : List Message} {message : Message}
    (h : message ∈ offered keys cached) : message ∈ cached := by
  have hmissing : message ∈ missing keys cached :=
    (fittingMessages_isPrefix (missing keys cached)).subset h
  exact (mem_missing_iff.mp hmissing).1

/-- What is offered comes from what the other side holds. -/
theorem offeredKeys_subset (keys : List Key) (cached : List Message) :
    offeredKeys keys cached ⊆ (cached.map Message.key).map Key.canonical := by
  intro key hkey
  obtain ⟨message, hmessage, rfl⟩ := List.mem_map.mp hkey
  exact List.mem_map_of_mem (List.mem_map_of_mem (mem_cached_of_mem_offered hmessage))

/-! ## On the wire -/

/-- The query of a station that holds these keys. -/
def queryOf (keys : List Key) : CacheQuery := ⟨keys.take (fitting keys)⟩

theorem length_record_queryOf_le (keys : List Key) :
    (queryOf keys).record.length ≤ Update.maxDataLength :=
  (le_fitting_iff (fitting_le_length keys)).mp (Nat.le_refl _)

/-- What fits an update has fewer entries than its count can say. -/
theorem length_lt_maxEntryCount {sizes : List Nat} (hpos : ∀ size ∈ sizes, 1 ≤ size)
    (h : countLength + sizes.sum ≤ Update.maxDataLength) : sizes.length < maxEntryCount := by
  have hle := List.length_le_sum_of_one_le sizes hpos
  simp only [Update.maxDataLength, maxEntryCount] at h ⊢
  omega

theorem length_queryOf_lt (keys : List Key) : (queryOf keys).keys.length < maxEntryCount := by
  have hlength := length_record_queryOf_le keys
  rw [CacheQuery.length_record] at hlength
  rw [← List.length_map CacheQuery.keyLength]
  refine length_lt_maxEntryCount (List.forall_mem_map.mpr fun key _ => ?_) hlength
  rw [CacheQuery.keyLength]
  omega

theorem encode_queryOf (keys : List Key) : (queryOf keys).encode = .ok (queryOf keys).record :=
  CacheQuery.encode_eq_ok_iff.mpr ⟨Nat.le_of_lt (length_queryOf_lt keys), rfl⟩

theorem decode_record_queryOf (keys : List Key) :
    CacheQuery.decode (queryOf keys).record = .ok ⟨named keys⟩ :=
  CacheQuery.decode_record (CacheQuery.encode_eq_ok_iff.mp (encode_queryOf keys)).1

/-- An answer fits one update, whatever was asked. -/
theorem length_record_answerTo_le (query : CacheQuery) (cached : List Message) :
    (answerTo query cached).record.length ≤ Update.maxDataLength := by
  rw [CacheAnswer.length_record]
  exact sum_fittingMessages_le _

theorem length_answerTo_le (query : CacheQuery) (cached : List Message) :
    (answerTo query cached).messages.length ≤ maxEntryCount := by
  have hlength := length_record_answerTo_le query cached
  rw [CacheAnswer.length_record] at hlength
  rw [← List.length_map Message.encodedLength]
  refine Nat.le_of_lt (length_lt_maxEntryCount (List.forall_mem_map.mpr fun message _ => ?_) hlength)
  rw [Message.encodedLength]
  omega

/-- What is in an answer would fit one by itself. -/
theorem length_le_of_mem_answerTo {query : CacheQuery} {cached : List Message} {message : Message}
    (h : message ∈ (answerTo query cached).messages) :
    countLength + message.encodedLength ≤ Update.maxDataLength := by
  have hlength := length_record_answerTo_le query cached
  rw [CacheAnswer.length_record] at hlength
  have hle : message.encodedLength ≤
      ((answerTo query cached).messages.map Message.encodedLength).sum :=
    List.single_le_sum (fun _ _ => Nat.zero_le _) _ (List.mem_map_of_mem h)
  omega

/-- What is in an answer can be written: it is too short to have too long a field. -/
theorem fits_of_mem_answerTo {query : CacheQuery} {cached : List Message} {message : Message}
    (h : message ∈ (answerTo query cached).messages) : message.Fits :=
  Message.fits_of_encodedLength_le
    (Nat.le_trans (Nat.le_add_left _ countLength) (length_le_of_mem_answerTo h))

theorem encode_answerTo (query : CacheQuery) (cached : List Message) :
    (answerTo query cached).encode = .ok (answerTo query cached).record :=
  CacheAnswer.encode_of_fits (length_answerTo_le query cached) fun _ => fits_of_mem_answerTo

/-- The answer to a station that holds these keys. -/
def answerFor (keys : List Key) (cached : List Message) : CacheAnswer :=
  answerTo ⟨named keys⟩ cached

theorem decode_record_answerFor (keys : List Key) (cached : List Message) :
    CacheAnswer.decode (answerFor keys cached).record =
      .ok ⟨(offered keys cached).map Message.canonical⟩ :=
  CacheAnswer.decode_record (length_answerTo_le _ cached) fun _ => fits_of_mem_answerTo

/-! ## Updates that are sent -/

/-- The frame carries an update from a station to its neighbour. -/
def CarriesUpdate (frame : Bytes) (update : Update) : Prop :=
  ∃ message, Message.decode frame = .ok message ∧ message.Carries update

/-- The message by which a node sends an update. -/
def carrier (node : Node) (update : Update) : Message :=
  { Message.make node.self node.nextSequence .update update.record with
    flags := Message.noCacheFlag }

variable {node : Node} {update : Update}

theorem length_payload_carrier (node : Node) (update : Update) :
    (carrier node update).payload.length = 3 + update.data.length := by
  simp only [carrier, Message.make, Update.record, List.length_append, List.length_cons,
    Bytes.length_ofWord]

theorem encodedLength_carrier (node : Node) (update : Update) :
    (carrier node update).encodedLength = 22 + node.self.encodedLength + update.data.length := by
  have hpath : (carrier node update).path.length = 0 := rfl
  have hsource : (carrier node update).source = node.self := rfl
  rw [Message.encodedLength, hpath, length_payload_carrier, hsource]
  omega

theorem fits_carrier (h : update.data.length ≤ Update.maxDataLength) :
    (carrier node update).Fits where
  path := Nat.zero_le _
  payload := by
    rw [length_payload_carrier]
    simp only [Update.maxDataLength, Message.maxPayloadLength] at h ⊢
    omega

/-- **An update whose data fits** can be sent, which costs a number for the message and nothing
else. -/
theorem updateMessage_of_le {operation : UpdateOperation} {data : Bytes}
    (h : data.length ≤ Update.maxDataLength) :
    updateMessage node operation (.ok data) =
      (node.drawSequence.1, .ok (carrier node ⟨operation, data⟩).record) := by
  have hpayload : Update.encode ⟨operation, data⟩ = .ok (Update.record ⟨operation, data⟩) :=
    Update.encode_eq_ok_iff.mpr ⟨h, rfl⟩
  have hflags : (0 ||| Message.noCacheFlag) = Message.noCacheFlag := by decide
  have hmessage := Message.encode_of_fits (@fits_carrier node ⟨operation, data⟩ h)
  simp only [updateMessage, bind, Except.bind, hpayload, Node.newMessage, Message.make, hflags]
  exact congrArg (Prod.mk node.drawSequence.1) hmessage

theorem carriesUpdate_carrier (h : update.data.length ≤ Update.maxDataLength) :
    CarriesUpdate (carrier node update).record update := by
  have hsent : updateMessage node update.operation (.ok update.data) =
      (node.drawSequence.1, .ok (carrier node update).record) := updateMessage_of_le h
  obtain ⟨bytes, message, hbytes, hcarries⟩ :=
    carries_of_updateMessage_eq_ok (congrArg Prod.snd hsent)
  obtain rfl := Except.ok.inj hbytes
  exact ⟨message, hcarries⟩

/-- The message by which a node asks a neighbour for what it does not hold itself. -/
def question (node : Node) : Message :=
  carrier node ⟨.cacheRequest, (queryOf node.engine.cache.keys).record⟩

/-- The message by which a node answers a query. -/
def response (node : Node) (query : CacheQuery) : Message :=
  carrier node ⟨.cacheResponse, (answerTo query node.cached).record⟩

/-- **A query is always sent**, and it is counted. -/
theorem peerConnected_eq (stats : ReconcileStats) (node : Node) (peer : PeerId) :
    peerConnected stats node peer =
      ({ stats with queries := stats.queries + 1 },
        node.drawSequence.1.queue peer (question node).record) := by
  have hquery : updateMessage node .cacheRequest (queryOf (node.cached.map Message.key)).encode =
      (node.drawSequence.1, .ok (question node).record) := by
    rw [encode_queryOf, updateMessage_of_le (length_record_queryOf_le _)]
    rfl
  rw [queryOf] at hquery
  simp only [peerConnected, hquery]

/-- **A query is always answered**, and the answer is counted. -/
theorem answer_of_decode (stats : ReconcileStats) (node : Node) (peer : PeerId) {data : Bytes}
    {query : CacheQuery} (h : CacheQuery.decode data = .ok query) :
    answer stats node peer data =
      .ok ({ stats with answers := stats.answers + 1 },
        node.drawSequence.1.queue peer (response node query).record) := by
  have hanswer : updateMessage node .cacheResponse (answerTo query node.cached).encode =
      (node.drawSequence.1, .ok (response node query).record) := by
    rw [encode_answerTo, updateMessage_of_le (length_record_answerTo_le query node.cached), response]
  simp only [answer, h, bind, Except.bind, hanswer]
  rfl

section React

variable {stats : ReconcileStats} {node : Node} {peer : PeerId} {payload data : Bytes}

/-- A query that was read is answered. -/
theorem react_of_query {query : CacheQuery}
    (hpayload : Update.decode payload = .ok ⟨.cacheRequest, data⟩)
    (hdata : CacheQuery.decode data = .ok query) :
    react stats node peer payload =
      .ok ({ stats with answers := stats.answers + 1 },
        node.drawSequence.1.queue peer (response node query).record) := by
  rw [← answer_of_decode stats node peer hdata, react, hpayload]
  rfl

/-- An answer that was read is merged. -/
theorem react_of_answer {answer : CacheAnswer}
    (hpayload : Update.decode payload = .ok ⟨.cacheResponse, data⟩)
    (hdata : CacheAnswer.decode data = .ok answer) :
    react stats node peer payload =
      .ok ({ stats with merged := stats.merged + (mergeAll node answer.messages).2 },
        (mergeAll node answer.messages).1) := by
  simp only [react, hpayload, bind, Except.bind, merge, hdata]
  rfl

/-- A reconciler takes note of an update that a peer sent by reacting to it. -/
theorem observe_of_react_eq_ok {message : Message} {result : ReconcileStats × Node}
    (hkind : message.kind = .update)
    (h : react stats node peer message.payload = .ok result) :
    observe stats node ⟨message, some peer⟩ = result := by
  simp only [observe, hkind, h]

end React

/-- All that a peer gets by it is the query. -/
theorem sends_peerConnected (stats : ReconcileStats) (node : Node) (peer : PeerId) :
    ∃ frame, CarriesUpdate frame ⟨.cacheRequest, (queryOf node.engine.cache.keys).record⟩ ∧
      (node.Sends (peerConnected stats node peer).2
        fun id => if some peer = some id then [frame] else []) ∧
      (peerConnected stats node peer).2.engine = node.engine := by
  rw [peerConnected_eq]
  exact ⟨_, carriesUpdate_carrier (length_record_queryOf_le node.engine.cache.keys),
    node.drawSequence.1.sends_queue peer _, rfl⟩

theorem merged_peerConnected (stats : ReconcileStats) (node : Node) (peer : PeerId) :
    (peerConnected stats node peer).1.merged = stats.merged := by
  rw [peerConnected_eq]

theorem malformed_peerConnected (stats : ReconcileStats) (node : Node) (peer : PeerId) :
    (peerConnected stats node peer).1.malformed = stats.malformed := by
  rw [peerConnected_eq]

/-- All that a peer gets by it is the answer. -/
theorem sends_react_queryOf (stats : ReconcileStats) (node : Node) (peer : PeerId) {keys : List Key}
    {payload : Bytes} (hpayload : Update.decode payload = .ok ⟨.cacheRequest, (queryOf keys).record⟩) :
    ∃ node' frame, react stats node peer payload =
        .ok ({ stats with answers := stats.answers + 1 }, node') ∧
      CarriesUpdate frame ⟨.cacheResponse, (answerFor keys node.cached).record⟩ ∧
      (node.Sends node' fun id => if some peer = some id then [frame] else []) ∧
      node'.engine = node.engine :=
  ⟨_, _, react_of_query hpayload (decode_record_queryOf keys),
    carriesUpdate_carrier (length_record_answerTo_le _ node.cached),
    node.drawSequence.1.sends_queue peer _, rfl⟩

end Reconciliation

end RadioGossip
