import RadioGossip.Proofs.OwnFrames
import RadioGossip.Proofs.Rosters

/-!
# Answering

Whoever asks is answered, and the answer is settled by the cache alone: of what the query does not
name it is the **longest front** that fits one update. In it each message has the length that it has
on the wire, so this length, added up, is that of the data, and a message that fits is never one
that cannot be written. One that cannot be written, because its path outgrew its field when it came
here, is too long for any answer. It ends the answer, if one comes so far, and spoils nothing.
-/

namespace RadioGossip

namespace Reconciliation

/-! ## Fronts -/

/-- The front is the longest one of a list of messages that fits one answer. -/
structure IsLongestFront (front messages : List Message) : Prop where
  isPrefix : front <+: messages
  fits : countLength + (front.map Message.encodedLength).sum ≤ Update.maxDataLength
  longest : ∀ other, other <+: messages →
    countLength + (other.map Message.encodedLength).sum ≤ Update.maxDataLength → other <+: front

theorem isLongestFront_fittingMessages (messages : List Message) :
    IsLongestFront (fittingMessages countLength messages) messages where
  isPrefix := fittingMessages_isPrefix messages
  fits := sum_fittingMessages_le messages
  longest _ hfront hfits := isPrefix_fittingMessages_iff.mpr ⟨hfront, hfits⟩

/-- An answer holds the longest front of what is cached under keys that the query does not name. -/
theorem isLongestFront_answerTo (query : CacheQuery) (cached : List Message) :
    IsLongestFront (answerTo query cached).messages
      (cached.filter fun message => message.key ∉ query.keys) := by
  have hunnamed : (cached.filter fun message => !query.keys.any message.hasKey) =
      cached.filter fun message => message.key ∉ query.keys := by
    refine List.filter_congr fun message _ => ?_
    have hnamed : query.keys.any message.hasKey = decide (message.key ∈ query.keys) := by
      rw [Bool.eq_iff_iff, List.any_eq_true, decide_eq_true_iff]
      simp only [Message.hasKey_iff, exists_eq_right']
    rw [hnamed, decide_not]
  rw [answerTo, hunnamed]
  exact isLongestFront_fittingMessages _

/-! ## Answers -/

variable {node : Node} {message : Message} {data : Bytes} {query : CacheQuery}

theorem decode_record_carrier {update : Update}
    (h : update.data.length ≤ Update.maxDataLength) :
    Message.decode (carrier node update).record = .ok
      { Message.make node.self.canonical node.nextSequence .update update.record with
        flags := Message.noCacheFlag } :=
  Message.decode_record (fits_carrier h)

/-- **A query is answered with the right messages.** Whatever a node holds, when a peer sends it an
update with a query, then the peer with this number gets one frame into its outbox, the other peers
stay as they are, the answer is counted, and nothing else changes but the number of the next
message. The frame is a message of the node itself without caching, hop budget and path. It carries
the longest front, in the order of the cache, of what the cache holds under keys that the query does
not name. -/
theorem query_is_answered (stats : ReconcileStats) (node : Node) (peer : PeerId)
    (hkind : message.kind = .update)
    (hupdate : Update.decode message.payload = .ok ⟨.cacheRequest, data⟩)
    (hquery : CacheQuery.decode data = .ok query) :
    ∃ frame payload answer front node',
      observe stats node ⟨message, some peer⟩ =
        ({ stats with answers := stats.answers + 1 }, node') ∧
      node' =
        { node with
          nextSequence := node.nextSequence + 1
          peers := node.peers.map fun other =>
            if other.id = peer then other.queue frame else other } ∧
      (node.IsNumbered → ∀ sender ∈ node.peers, sender.id = peer → ∃ before behind,
        node.peers = before ++ sender :: behind ∧
          node'.peers = before ++ sender.queue frame :: behind) ∧
      Message.decode frame = .ok
        { Message.make node.self.canonical node.nextSequence .update payload with
          flags := Message.noCacheFlag } ∧
      Update.decode payload = .ok ⟨.cacheResponse, answer⟩ ∧
      CacheAnswer.decode answer = .ok ⟨front.map Message.canonical⟩ ∧
      IsLongestFront front (node.cached.filter fun held => held.key ∉ query.keys) := by
  have hlength := length_record_answerTo_le query node.cached
  refine ⟨(response node query).record, _, (answerTo query node.cached).record,
    (answerTo query node.cached).messages, _,
    observe_of_react_eq_ok hkind (react_of_query hupdate hquery), rfl, ?_,
    decode_record_carrier hlength, Update.decode_record hlength, ?_,
    isLongestFront_answerTo query node.cached⟩
  · rintro hnumbered sender hsender rfl
    exact hnumbered.peers_updatePeer hsender _
  · exact CacheAnswer.decode_record (length_answerTo_le query node.cached)
      fun _ => fits_of_mem_answerTo

/-- A station that spells its kind by a number holds a message that the query names, one of its own,
one whose path is too long for the wire, and one more behind that. The second of its two neighbours
asks, and gets the message of the station, with the kind spelled by its name. -/
theorem query_is_answered_unwritable_third :
    let self : Contact := ⟨.other 0, [65], [], by decide, by decide⟩
    let source : Contact := ⟨.fixed, [66], [], by decide, by decide⟩
    let first := Message.make source 1 .cq []
    let second := Message.make self 2 .cq [7]
    let third := { Message.make source 3 .cq [] with
      path := ⟨String.ofList (.replicate 65536 'A')⟩ }
    let fourth := Message.make source 4 .cq []
    let node := { Node.new self { peers := [⟨"b", 1⟩, ⟨"c", 2⟩] } 9 with
      engine.cache := ⟨8, [first, second, third, fourth]⟩ }
    let query : CacheQuery := ⟨[first.key]⟩
    let request := Message.make source 5 .update (Update.record ⟨.cacheRequest, query.record⟩)
    ¬ third.Fits ∧ request.kind = .update ∧
      Update.decode request.payload = .ok ⟨.cacheRequest, query.record⟩ ∧
      CacheQuery.decode query.record = .ok query ∧
      ∃ frame payload answer node',
        observe {} node ⟨request, some ⟨2⟩⟩ = ({ answers := 1 }, node') ∧
        node'.peers.map (·.outbox.contents) = [[], [frame]] ∧
        Message.decode frame = .ok
          { Message.make self.canonical 9 .update payload with flags := Message.noCacheFlag } ∧
        Update.decode payload = .ok ⟨.cacheResponse, answer⟩ ∧
        CacheAnswer.decode answer = .ok ⟨[{ second with source := { self with kind := .user } }]⟩ := by
  intro self source first second third fourth node query request
  have hpath : third.path.length = 65536 := Path.length_replicate (by decide) 65536
  have hunwritable : ¬ third.Fits := fun hfits => by
    have hle := hfits.path
    rw [hpath, Path.maxLength] at hle
    omega
  have hupdate : Update.decode request.payload = .ok ⟨.cacheRequest, query.record⟩ := by
    decide +kernel
  have hquery : CacheQuery.decode query.record = .ok query := by decide +kernel
  obtain ⟨frame, payload, answer, front, node', hobserve, hnode, -, hframe, hpayload, hanswer,
    hfront⟩ := query_is_answered {} node ⟨2⟩ rfl hupdate hquery
  -- The second message fits, and the third would not even fit alone.
  have hlongest : front = [second] := by
    have hunnamed : (node.cached.filter fun held => held.key ∉ query.keys) =
        [second, third, fourth] := rfl
    rw [hunnamed] at hfront
    obtain ⟨others, hothers⟩ := hfront.longest [second] ⟨[third, fourth], rfl⟩ (by decide +kernel)
    cases others with
    | nil => exact hothers.symm
    | cons other others =>
      subst hothers
      obtain ⟨-, hthird⟩ := List.cons_prefix_cons.mp hfront.isPrefix
      obtain ⟨rfl, -⟩ := List.cons_prefix_cons.mp hthird
      have hle := hfront.fits
      simp only [List.cons_append, List.nil_append, List.map_cons, List.sum_cons,
        Message.encodedLength, hpath, Update.maxDataLength] at hle
      omega
  subst hlongest hnode
  exact ⟨hunwritable, rfl, hupdate, hquery, frame, payload, answer, _, hobserve, rfl, hframe,
    hpayload, hanswer⟩

end Reconciliation

end RadioGossip
