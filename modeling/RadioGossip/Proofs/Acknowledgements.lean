import RadioGossip.Proofs.Accounts
import RadioGossip.Proofs.Contents

/-!
# Acknowledgements

A station that accepts a message answers it, if its sender asked for that. A neighbour with another
callsign that is given the answer delivers it and does nothing else. It learns from it who
**confirms** which message, and it does so as often as the answer comes. Whatever is not accepted,
and whatever does not ask for it, is not answered; so no answer is answered itself.
-/

namespace RadioGossip

namespace Path

/-- A callsign on its own is a path with one hop. -/
theorem hops_of_isCallsign {callsign : String} (h : IsCallsign callsign) :
    hops ⟨callsign⟩ = [callsign] := by
  have happend := @hops_append empty callsign h
  rwa [hops_empty, List.nil_append] at happend

end Path

/-! ## Answers -/

/-- The bytes of an answer, if the event is one. -/
def Event.reply? : Event → Option Bytes
  | .reply wire => some wire
  | _ => none

theorem Event.reply?_about (message : Message) (relay reply : Option Bytes) :
    (about message relay reply).filterMap reply? = reply.toList := by
  cases relay <;> cases reply <;> rfl

/-- The receipt confirms to whoever gets it that the station has the message with this key. -/
structure Message.Confirms (receipt : Message) (station : Contact) (key : Key) : Prop where
  kind : receipt.kind = .ack
  noCache : receipt.isNoCache = true
  spent : receipt.ttl = 0
  source : receipt.source = station.canonical
  payload : ∃ ack, Ack.decode receipt.payload = .ok ack ∧ ack.key = key

namespace Engine

variable {engine near far : Engine} {message : Message} {raw wire : Bytes}

/-- What was read off the wire is confirmed under its own key. -/
theorem confirms_acknowledgement (hcanonical : message.source.IsCanonical) :
    (engine.acknowledgement message).canonical.Confirms engine.self message.key where
  kind := rfl
  noCache := engine.isNoCache_acknowledgement message
  spent := rfl
  source := rfl
  payload := ⟨Ack.ofKey message.key, Ack.decode_encode hcanonical, Ack.key_ofKey message.key⟩

/-! ## Who answers -/

/-- The answers among the events of a frame that came in. -/
def repliesTo (engine : Engine) (raw : Bytes) : List Bytes :=
  (engine.events (.handle raw)).filterMap Event.reply?

/-- Only news is answered, and only if it asked for it. -/
theorem repliesTo_of_not_news (hraw : Message.decode raw = .ok message)
    (h : message.isAckRequested = true → ¬ engine.IsNews message) :
    engine.repliesTo raw = [] := by
  obtain ⟨events, hevents, hdecides⟩ := engine.decides_handle hraw
  rw [repliesTo, Engine.events, hevents]
  generalize (engine.handle raw).1.cache = cache at hdecides
  cases hdecides with
  | drops => rfl
  | delivers => exact Event.reply?_about message none none
  | accepts hnews =>
    have hrequested := Bool.eq_false_iff.mpr fun hrequested => h hrequested hnews
    rw [replyTo_of_not_requested hrequested]
    exact Event.reply?_about _ _ none

/-- A message that is to be kept is delivered only if it is news. -/
theorem isNews_of_delivered (hraw : Message.decode raw = .ok message)
    (hkept : message.isNoCache = false) {copy : Message}
    (hdelivered : .deliver copy ∈ engine.events (.handle raw)) : engine.IsNews message := by
  obtain ⟨events, hevents, hdecides⟩ := engine.decides_handle hraw
  rw [Engine.events, hevents] at hdelivered
  generalize (engine.handle raw).1.cache = cache at hdecides
  cases hdecides with
  | drops => cases hdelivered
  | delivers hno =>
    rw [hkept] at hno
    cases hno
  | accepts hnews => exact hnews

/-- News that asks for it is answered once. -/
theorem repliesTo_of_news (hraw : Message.decode raw = .ok message) (hnews : engine.IsNews message)
    (hrequested : message.isAckRequested = true) :
    engine.repliesTo raw = [(engine.acknowledgement message).record] := by
  obtain ⟨-, hevents⟩ := handle_of_fresh hraw hnews.no_loop hnews.kept hnews.fresh
  rw [repliesTo, Engine.events, hevents, replyTo_of_requested hrequested]
  exact Event.reply?_about _ _ (some (engine.acknowledgement message).record)

/-! ## Who is answered -/

/-- The engine with so many more frames counted as processed. -/
def counting (engine : Engine) (frames : Nat) : Engine :=
  { engine with stats.processed := engine.stats.processed + frames }

theorem counting_counting (engine : Engine) (frames frames' : Nat) :
    (engine.counting frames).counting frames' = engine.counting (frames + frames') := by
  simp only [counting, Nat.add_assoc]

/-- A neighbour delivers an acknowledgement, and counts it as processed. -/
theorem handle_acknowledgement (hcallsign : Path.IsCallsign far.callsign)
    (hne : near.callsign ≠ far.callsign) (message : Message) :
    near.handle (far.acknowledgement message).record =
      (near.counting 1, .ok [.deliver (far.acknowledgement message).canonical]) := by
  have hraw := far.decode_acknowledgement message
  have hhops : (far.acknowledgement message).canonical.path.hops = [far.callsign] :=
    Path.hops_of_isCallsign hcallsign
  have hloop : (far.acknowledgement message).canonical.path.contains near.callsign = false := by
    rw [Bool.eq_false_iff, ne_eq, Path.contains_iff_mem_hops, hhops, List.mem_singleton]
    exact hne
  exact handle_of_noCache hraw hloop (far.isNoCache_acknowledgement message)

/-- A frame of which nothing comes but one event may come any number of times. -/
theorem handle_replicate {event : Event}
    (hwire : ∀ engine : Engine, engine.callsign = near.callsign →
      engine.handle wire = (engine.counting 1, .ok [event])) (count : Nat) :
    near.afterAll (List.replicate count (.handle wire)) = near.counting count ∧
      near.answers (List.replicate count (.handle wire)) =
        List.replicate count (.handle (.ok [event])) := by
  induction count generalizing near with
  | zero => exact ⟨rfl, rfl⟩
  | succ count ih =>
    have hfirst := hwire near rfl
    have hnext : near.after (.handle wire) = near.counting 1 := by
      rw [after, hfirst]
    obtain ⟨hafter, hanswers⟩ := @ih (near.counting 1) hwire
    rw [List.replicate_succ, List.replicate_succ]
    constructor
    · calc
        near.afterAll (.handle wire :: List.replicate count (.handle wire))
          = (near.after (.handle wire)).afterAll (List.replicate count (.handle wire)) := rfl
        _ = (near.counting 1).counting count := by rw [hnext, hafter]
        _ = near.counting (count + 1) := by rw [counting_counting, Nat.add_comm]
    · rw [answers, hnext, hanswers, answer, hfirst]

/-! ## There and back -/

/-- **An acknowledgement comes back.** A station whose callsign may stand in paths is given a frame.
If it delivers the message in it, which is to be kept and asked for an acknowledgement, then it
answers with one frame. A neighbour with another callsign, whatever it was asked to do before,
delivers what this frame says, and nothing else comes of it, as often as it comes: the station, as it
is written on the wire, confirms the message under its key. A frame that is no message or does not
ask for it, a message without caching, a duplicate and one that came round in a loop are not
answered. -/
theorem acknowledgement_comes_back (hcallsign : Path.IsCallsign far.callsign)
    (hne : near.callsign ≠ far.callsign) (raw : Bytes) :
    (∀ message copy, Message.decode raw = .ok message → message.isNoCache = false →
      message.isAckRequested = true → .deliver copy ∈ far.events (.handle raw) →
      ∃ wire receipt, far.repliesTo raw = [wire] ∧ Message.decode wire = .ok receipt ∧
        receipt.Confirms far.self message.key ∧
        ∀ requests count, let engine := near.afterAll requests
          engine.afterAll (List.replicate count (.handle wire)) = engine.counting count ∧
            engine.answers (List.replicate count (.handle wire)) =
              List.replicate count (.handle (.ok [.deliver receipt]))) ∧
    (∀ cause, Message.decode raw = .error cause → far.repliesTo raw = []) ∧
    ∀ message, Message.decode raw = .ok message →
      (message.isAckRequested = false ∨ message.isNoCache = true ∨
        far.cache.contains message.key = true ∨ message.path.contains far.callsign = true) →
      far.repliesTo raw = [] := by
  refine ⟨fun message copy hraw hkept hrequested hdelivered => ?_, fun cause hraw => ?_,
    fun message hraw hnot => ?_⟩
  · obtain ⟨hcanonical, -⟩ := Message.decode_eq_ok.mp hraw
    have hnews := isNews_of_delivered hraw hkept hdelivered
    refine ⟨(far.acknowledgement message).record, (far.acknowledgement message).canonical,
      repliesTo_of_news hraw hnews hrequested,
      far.decode_acknowledgement message,
      confirms_acknowledgement hcanonical.1, fun requests count => ?_⟩
    have hsame := near.callsign_afterAll requests
    apply handle_replicate
    intro engine hengine
    exact handle_acknowledgement hcallsign (by rwa [hengine, hsame]) message
  · rw [repliesTo, Engine.events, handle_of_malformed hraw]
    rfl
  · refine repliesTo_of_not_news hraw fun hrequested hnews => ?_
    rcases hnot with hno | hno | hcached | hloop
    · rw [hrequested] at hno
      cases hno
    · rw [hnews.kept] at hno
      cases hno
    · rw [hnews.fresh] at hcached
      cases hcached
    · rw [hnews.no_loop] at hloop
      cases hloop

/-- A station whose contact spells its kind as an unnamed one hears a message that asks for an
acknowledgement. Its neighbour is given the answer three times. -/
theorem acknowledgement_comes_back_thrice :
    let near := Engine.new ⟨.user, [65], [], by decide, by decide⟩ 4 false
    let far := Engine.new ⟨.other 0, [66], [], by decide, by decide⟩ 4 false
    let message : Message :=
      { Message.make near.self 7 .cq [1, 2] with ttl := 2, flags := Message.ackFlag, path := ⟨"A"⟩ }
    Path.IsCallsign far.callsign ∧ near.callsign ≠ far.callsign ∧
      ∃ wire receipt, far.repliesTo message.record = [wire] ∧
        receipt.Confirms far.self message.key ∧
        near.afterAll (List.replicate 3 (.handle wire)) = near.counting 3 ∧
        near.answers (List.replicate 3 (.handle wire)) =
          List.replicate 3 (.handle (.ok [.deliver receipt])) := by
  intro near far message
  have hcallsign : Path.IsCallsign far.callsign := ⟨by decide +kernel, by decide +kernel⟩
  have hne : near.callsign ≠ far.callsign := by decide +kernel
  have hraw : Message.decode message.record = .ok message := by decide +kernel
  have hdelivered : .deliver (message.hop "B") ∈ far.events (.handle message.record) := by
    decide +kernel
  obtain ⟨hanswered, -⟩ := acknowledgement_comes_back hcallsign hne message.record
  obtain ⟨wire, receipt, hreplies, -, hconfirms, htaken⟩ :=
    hanswered message (message.hop "B") hraw (by decide) (by decide) hdelivered
  obtain ⟨hafter, hanswers⟩ := htaken [] 3
  exact ⟨hcallsign, hne, wire, receipt, hreplies, hconfirms, hafter, hanswers⟩

end Engine

end RadioGossip
