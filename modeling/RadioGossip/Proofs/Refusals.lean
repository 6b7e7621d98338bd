import RadioGossip.Proofs.Offers
import RadioGossip.Proofs.Outlines
import RadioGossip.Proofs.PayloadFormats
import RadioGossip.Proofs.Requests

/-!
# Refusals

What a station refuses leaves no trace but a count. A message that it does not spread, and one that
its cache does not take, change nothing at all. A frame that is no message is counted by the engine,
and nobody hears of it. An update that a peer sent and that cannot be read to its end is **rejected**:
the reconciler counts it, and however much of it could be read, nothing of it is answered or merged.

Reading comes first, and it is all that can fail: whatever a station holds, what it has to say to an
update that was read can be written. So a reconciler counts an update as malformed only if it was
rejected, whatever else happens to the station.
-/

namespace RadioGossip

/-! ## Engines -/

namespace Engine

variable {engine : Engine} {message : Message}

/-- **A message is refused** by a station that only listens, or because it cannot be written after its
hop. Nothing changes by it. -/
theorem spread_of_refused {cause : SpreadError} (h : (engine.spread message).2 = .error cause) :
    engine.spread message = (engine, .error cause) ∧
      (cause = .readOnly ∧ engine.readOnly = true ∨
        ∃ why, cause = .unwritable why ∧
          (message.hop engine.callsign).encode = .error why) := by
  cases hwrite : engine.readOnly with
  | true =>
    rw [spread_of_readOnly hwrite] at h ⊢
    obtain rfl := Except.error.inj h
    exact ⟨rfl, .inl ⟨rfl, rfl⟩⟩
  | false =>
  cases hno : message.isNoCache with
  | true =>
    rw [spread_of_noCache hwrite hno] at h
    cases h
  | false =>
  cases hcached : engine.cache.contains message.key with
  | true =>
    rw [spread_of_duplicate hwrite hno hcached] at h
    cases h
  | false =>
  cases hloop : message.path.contains engine.callsign with
  | true =>
    rw [spread_of_loop hwrite hno hcached hloop] at h
    cases h
  | false =>
  by_cases httl : (message.hop engine.callsign).ttl = 0
  · rw [spread_of_spent hwrite hno hcached hloop httl] at h
    cases h
  cases hwire : (message.hop engine.callsign).encode with
  | error why =>
    rw [spread_of_unwritable hwrite hno hcached hloop httl hwire] at h ⊢
    obtain rfl := Except.error.inj h
    exact ⟨rfl, .inr ⟨why, rfl, rfl⟩⟩
  | ok wire =>
    rw [(spread_of_fresh hwrite hno hcached hloop hwire).2] at h
    cases h

/-- A message that the cache does not take leaves the engine as it was. -/
theorem addToCache_of_declined (h : (engine.addToCache message).2 = false) :
    engine.addToCache message = (engine, false) := by
  cases hno : message.isNoCache with
  | true => exact addToCache_of_noCache hno
  | false =>
    rw [addToCache_of_kept hno] at h ⊢
    rw [snd_insert] at h
    rw [insert, Cache.insert_of_snd_eq_false h]

end Engine

/-! ## Updates -/

namespace Reconciliation

/-- An update cannot be read to its end: there is no envelope, or there is none of what the envelope
says is in it. -/
inductive IsRejected (payload : Bytes) : Prop where
  | envelope {cause : WireError} (hpayload : Update.decode payload = .error cause)
  | query {data : Bytes} {cause : WireError}
      (hpayload : Update.decode payload = .ok ⟨.cacheRequest, data⟩)
      (hdata : CacheQuery.decode data = .error cause)
  | answer {data : Bytes} {cause : WireError}
      (hpayload : Update.decode payload = .ok ⟨.cacheResponse, data⟩)
      (hdata : CacheAnswer.decode data = .error cause)

/-- One broken entry is enough, however many stand before it. -/
theorem isRejected_of_broken {payload data broken : Bytes} {messages : List Message}
    {cause : WireError} (hpayload : Update.decode payload = .ok ⟨.cacheResponse, data⟩)
    (hmessages : ∀ message ∈ messages, message.IsCanonical ∧ message.Fits)
    (hentries : behindCount data = messages.flatMap Message.record ++ broken)
    (hcount : messages.length < countAt data) (hbroken : Message.decode broken = .error cause) :
    IsRejected payload := by
  obtain ⟨others, hothers⟩ := Nat.exists_eq_add_of_lt hcount
  have hreader : ∃ why, Message.reader broken = .error why := by
    cases hread : Message.reader broken with
    | error why => exact ⟨why, rfl⟩
    | ok result =>
      rw [Message.decode, Reader.run, hread] at hbroken
      cases hbroken
  obtain ⟨why, hwhy⟩ := hreader
  have hcompleted : Message.reader.completed (countAt data) (behindCount data) = messages.length := by
    rw [hentries, hothers, Nat.add_assoc, Reader.completed_append Message.readsBack_reader hmessages,
      Reader.completed_succ_of_error hwhy, Nat.add_zero]
  obtain ⟨refusal, hrefusal, -⟩ :=
    CacheAnswer.isBounded.malformed_of_lt data (hcompleted ▸ hcount)
  exact .answer hpayload hrefusal

variable {stats : ReconcileStats} {node : Node} {peer : PeerId} {payload : Bytes}

theorem react_of_rejected (h : IsRejected payload) :
    ∃ cause, react stats node peer payload = .error cause := by
  cases h with
  | @envelope cause hpayload =>
    refine ⟨cause, ?_⟩
    rw [react, hpayload]
    rfl
  | @query data cause hpayload hdata =>
    refine ⟨cause, ?_⟩
    simp only [react, hpayload, bind, Except.bind, answer, hdata]
  | @answer data cause hpayload hdata =>
    refine ⟨cause, ?_⟩
    simp only [react, hpayload, bind, Except.bind, merge, hdata]

/-- **Reading is all that can fail**, and what was read is not counted as malformed. -/
theorem exists_react_eq_ok (h : ¬ IsRejected payload) :
    ∃ stats' node', react stats node peer payload = .ok (stats', node') ∧
      stats'.malformed = stats.malformed := by
  cases hpayload : Update.decode payload with
  | error cause => exact absurd (.envelope hpayload) h
  | ok update =>
    obtain ⟨operation, data⟩ := update
    cases operation with
    | cacheRequest =>
      cases hdata : CacheQuery.decode data with
      | error cause => exact absurd (.query hpayload hdata) h
      | ok query => exact ⟨_, _, react_of_query hpayload hdata, rfl⟩
    | cacheResponse =>
      cases hdata : CacheAnswer.decode data with
      | error cause => exact absurd (.answer hpayload hdata) h
      | ok answer => exact ⟨_, _, react_of_answer hpayload hdata, rfl⟩

end Reconciliation

/-- A peer sent an update that cannot be read to its end. -/
structure Delivery.IsRejected (delivery : Delivery) : Prop where
  kind : delivery.message.kind = .update
  sender : ∃ peer, delivery.sender = some peer
  payload : Reconciliation.IsRejected delivery.message.payload

namespace Reconciliation

variable {stats : ReconcileStats} {node : Node} {delivery : Delivery}

/-- A reconciler counts what is rejected, and that is all. -/
theorem observe_of_rejected (h : delivery.IsRejected) :
    observe stats node delivery = ({ stats with malformed := stats.malformed + 1 }, node) := by
  obtain ⟨peer, hpeer⟩ := h.sender
  obtain ⟨cause, hcause⟩ := @react_of_rejected stats node peer _ h.payload
  simp only [observe, h.kind, hpeer, hcause]

/-- A reconciler counts nothing else as malformed. -/
theorem malformed_observe (h : ¬ delivery.IsRejected) :
    (observe stats node delivery).1.malformed = stats.malformed := by
  simp only [observe]
  split
  · next peer hkind hpeer =>
    have hread : ¬ IsRejected delivery.message.payload := fun hpayload =>
      h ⟨hkind, ⟨peer, hpeer⟩, hpayload⟩
    obtain ⟨stats', node', hreact, hsame⟩ := @exists_react_eq_ok stats node peer _ hread
    rw [hreact]
    exact hsame
  · rfl

end Reconciliation

/-! ## What happens to a station -/

/-- What happens to a station. -/
inductive Occurrence where
  /-- A message starts here. -/
  | spreads (message : Message)
  /-- A frame comes in. -/
  | hears (raw : Bytes) (sender : Option PeerId)
  /-- A message is learned some other way. -/
  | learns (message : Message)
  /-- A peer connects. -/
  | meets (peer : PeerId)
  /-- One reconciler is told of a delivery. -/
  | tells (index : Nat) (delivery : Delivery)
  /-- A reconciler is registered. -/
  | registers
  /-- A handler of deliveries is removed. -/
  | removes (id : CallbackId)
  /-- Anything else becomes of the node, such as that frames leave the outboxes. -/
  | moves (node : Node)
  deriving DecidableEq, Repr

namespace Station

variable {station : Station} {index : Nat} {delivery : Delivery}

/-- The station after something happened. -/
def after (station : Station) : Occurrence → Station
  | .spreads message => (station.spread message).1
  | .hears raw sender => station.handle raw sender
  | .learns message => (station.addToCache message).1
  | .meets peer => station.peerConnected peer
  | .tells index delivery => station.reconcile index delivery
  | .registers => station.registerReconciler.1
  | .removes id => (station.removeMessageHandler id).1
  | .moves node => { station with node }

/-- The station after a run of occurrences, the first of them first. -/
def afterAll (station : Station) (run : List Occurrence) : Station := run.foldl after station

/-- What the reconcilers of a station get to hear. -/
def deliveriesOf (station : Station) : Occurrence → List Delivery
  | .spreads message => (station.node.spread message).2.toOption.getD []
  | .hears raw sender => (station.node.handle raw sender).2
  | .tells _ delivery => [delivery]
  | _ => []

/-- The updates that a reconciler counted as malformed. One that is not there counted none. -/
def malformedBy (station : Station) (index : Nat) : Nat :=
  (station.reconcilers[index]?.map ReconcileStats.malformed).getD 0

/-- New statistics with the same count make no difference. -/
theorem malformedBy_set {node : Node} {other : Nat} {stats stats' : ReconcileStats}
    (hstats : station.reconcilers[other]? = some stats)
    (hsame : stats'.malformed = stats.malformed) (index : Nat) :
    { station with node, reconcilers := station.reconcilers.set other stats' }.malformedBy index =
      station.malformedBy index := by
  simp only [malformedBy]
  by_cases hindex : other = index
  · subst hindex
    obtain ⟨hlt, -⟩ := List.getElem?_eq_some_iff.mp hstats
    rw [List.getElem?_set_self hlt, hstats, Option.map_some, Option.map_some, hsame]
  · rw [List.getElem?_set_ne hindex]

theorem malformedBy_reconcile (h : ¬ delivery.IsRejected) (other : Nat) :
    (station.reconcile other delivery).malformedBy index = station.malformedBy index := by
  rw [reconcile]
  cases hstats : station.reconcilers[other]? with
  | none => rfl
  | some stats => exact malformedBy_set hstats (Reconciliation.malformed_observe h) index

theorem malformedBy_runHandler (h : ¬ delivery.IsRejected) (station : Station)
    (entry : CallbackId × MessageHandler) :
    (station.runHandler delivery entry).malformedBy index = station.malformedBy index := by
  obtain ⟨id, handler⟩ := entry
  cases handler with
  | observer => rfl
  | tally other => rfl
  | reconciler other => exact malformedBy_reconcile h other

theorem malformedBy_foldl_deliver {deliveries : List Delivery}
    (h : ∀ delivery ∈ deliveries, ¬ delivery.IsRejected) (station : Station) :
    (deliveries.foldl deliver station).malformedBy index = station.malformedBy index :=
  foldl_deliver_kept (malformedBy · index)
    (fun delivery hdelivery => malformedBy_runHandler (h delivery hdelivery)) station

theorem malformedBy_peerConnected (station : Station) (peer : PeerId) :
    (station.peerConnected peer).malformedBy index = station.malformedBy index := by
  have hentry : ∀ (station : Station) (entry : CallbackId × ConnectHandler),
      (station.runConnectHandler peer entry).malformedBy index = station.malformedBy index := by
    rintro station ⟨id, handler⟩
    cases handler with
    | bystander => rfl
    | reconciler other =>
      rw [runConnectHandler, greet]
      cases hstats : station.reconcilers[other]? with
      | none => rfl
      | some stats =>
        refine malformedBy_set hstats ?_ index
        exact Reconciliation.malformed_peerConnected stats station.node peer
  exact peerConnected_kept (malformedBy · index) hentry station

theorem malformedBy_registerReconciler (station : Station) :
    station.registerReconciler.1.malformedBy index = station.malformedBy index := by
  have hreconcilers : station.registerReconciler.1.reconcilers =
      station.reconcilers ++ [({} : ReconcileStats)] := rfl
  rw [malformedBy, hreconcilers, malformedBy]
  rcases Nat.lt_trichotomy index station.reconcilers.length with hlt | rfl | hlt
  · rw [List.getElem?_append_left hlt]
  · rw [List.getElem?_concat_length, List.getElem?_eq_none (Nat.le_refl _)]
    rfl
  · rw [List.getElem?_eq_none (Nat.le_of_lt hlt), List.getElem?_eq_none]
    rw [List.length_append, List.length_singleton]
    exact hlt

/-- **What happens without a rejected update** leaves the counts of malformed updates as they are. -/
theorem malformedBy_after {occurrence : Occurrence}
    (h : ∀ delivery ∈ station.deliveriesOf occurrence, ¬ delivery.IsRejected) :
    (station.after occurrence).malformedBy index = station.malformedBy index := by
  cases occurrence with
  | spreads message =>
    simp only [deliveriesOf] at h
    simp only [after, spread]
    split
    · rfl
    · next node deliveries hspread =>
      rw [hspread] at h
      exact malformedBy_foldl_deliver h { station with node }
  | hears raw sender =>
    exact malformedBy_foldl_deliver h { station with node := (station.node.handle raw sender).1 }
  | learns message => rfl
  | meets peer => exact malformedBy_peerConnected station peer
  | tells other delivery => exact malformedBy_reconcile (h delivery (List.mem_singleton_self _)) other
  | registers => exact malformedBy_registerReconciler station
  | removes id => rfl
  | moves node => rfl

/-- **A count of malformed updates grows** only by a rejected update, over whole runs. -/
theorem exists_rejected_of_malformedBy_lt {run : List Occurrence}
    (h : station.malformedBy index < (station.afterAll run).malformedBy index) :
    ∃ before occurrence later delivery, run = before ++ occurrence :: later ∧
      delivery ∈ (station.afterAll before).deliveriesOf occurrence ∧ delivery.IsRejected := by
  induction run generalizing station with
  | nil => exact absurd h (Nat.lt_irrefl _)
  | cons occurrence run ih =>
    by_cases hnow : ∃ delivery ∈ station.deliveriesOf occurrence, delivery.IsRejected
    · obtain ⟨delivery, hdelivery, hrejected⟩ := hnow
      exact ⟨[], occurrence, run, delivery, rfl, hdelivery, hrejected⟩
    · -- Nothing is counted now, so what is counted is counted later.
      have hsame : (station.after occurrence).malformedBy index = station.malformedBy index :=
        malformedBy_after fun delivery hdelivery hrejected =>
          hnow ⟨delivery, hdelivery, hrejected⟩
      rw [← hsame] at h
      obtain ⟨before, other, later, delivery, rfl, hdelivery, hrejected⟩ := ih h
      exact ⟨occurrence :: before, other, later, delivery, rfl, hdelivery, hrejected⟩

/-! ## What is refused -/

variable {message : Message}

/-- A message that is refused leaves the station as it was. -/
theorem spread_of_refused {cause : SpreadError} (h : (station.spread message).2 = .error cause) :
    station.spread message = (station, .error cause) ∧
      (cause = .readOnly ∧ station.node.engine.readOnly = true ∨
        ∃ why, cause = .unwritable why ∧
          (message.hop station.callsign).encode = .error why) := by
  have hrefused : (station.node.engine.spread message).2 = .error cause := by
    cases hspread : (station.node.engine.spread message).2 with
    | error why =>
      rw [spread, Node.spread_of_error hspread] at h
      rw [Except.error.inj h]
    | ok events =>
      rw [spread, Node.spread_eq hspread] at h
      cases h
  obtain ⟨hsame, hcause⟩ := Engine.spread_of_refused hrefused
  refine ⟨?_, hcause⟩
  rw [spread, Node.spread_of_error hrefused, hsame]

/-- A frame that is no message is counted by the engine, and that is all. -/
theorem handle_of_malformed {raw : Bytes} {cause : WireError}
    (hraw : Message.decode raw = .error cause) (station : Station) (sender : Option PeerId) :
    station.handle raw sender =
      { station with
        node.engine.stats := { station.node.engine.stats with
          processed := station.node.engine.stats.processed + 1
          malformed := station.node.engine.stats.malformed + 1 } } := by
  rw [handle, Node.handle, Engine.handle_of_malformed hraw]
  rfl

/-- A message that the cache does not take leaves the station as it was. -/
theorem addToCache_of_declined (h : (station.addToCache message).2 = false) :
    station.addToCache message = (station, false) := by
  have hdeclined : (station.node.engine.addToCache message).2 = false := h
  rw [addToCache, Node.addToCache, Engine.addToCache_of_declined hdeclined]

/-- A rejected update is counted by the reconciler, and that is all. -/
theorem reconcile_of_rejected {stats : ReconcileStats}
    (hstats : station.reconcilers[index]? = some stats) (h : delivery.IsRejected) :
    station.reconcile index delivery =
      { station with
        reconcilers := station.reconcilers.set index
          { stats with malformed := stats.malformed + 1 } } := by
  rw [reconcile, hstats]
  simp only [Reconciliation.observe_of_rejected h]

/-- **What is refused leaves no trace but a count.** A message that a station does not spread, because
it only listens or because the message cannot be written after its hop, leaves the station as it was,
and so does a message that its cache does not take. A frame that is no message is counted as processed
and as malformed. An update from a peer that is rejected is counted by the reconciler that hears of it;
an answer is rejected for one broken message, however many stand before it. And whatever happens to a
station, a reconciler counts more updates as malformed only if a peer delivered an update that was
rejected. -/
theorem refusals_leave_no_trace (station : Station) :
    (∀ message cause, (station.spread message).2 = .error cause →
      (station.spread message).1 = station ∧
        (cause = .readOnly ∧ station.node.engine.readOnly = true ∨
          ∃ why, cause = .unwritable why ∧
            (message.hop station.callsign).encode = .error why)) ∧
    (∀ raw sender cause, Message.decode raw = .error cause →
      station.handle raw sender =
        { station with
          node.engine.stats := { station.node.engine.stats with
            processed := station.node.engine.stats.processed + 1
            malformed := station.node.engine.stats.malformed + 1 } }) ∧
    (∀ message, (station.addToCache message).2 = false →
      (station.addToCache message).1 = station) ∧
    (∀ index stats message peer, station.reconcilers[index]? = some stats →
      message.kind = .update → Reconciliation.IsRejected message.payload →
        station.reconcile index ⟨message, some peer⟩ =
          { station with
            reconcilers := station.reconcilers.set index
              { stats with malformed := stats.malformed + 1 } }) ∧
    (∀ payload data broken cause, ∀ messages : List Message,
      Update.decode payload = .ok ⟨.cacheResponse, data⟩ →
      (∀ message ∈ messages, message.IsCanonical ∧ message.Fits) →
      behindCount data = messages.flatMap Message.record ++ broken →
      messages.length < countAt data → Message.decode broken = .error cause →
        Reconciliation.IsRejected payload) ∧
    (∀ index run, station.malformedBy index < (station.afterAll run).malformedBy index →
      ∃ before occurrence later message peer, run = before ++ occurrence :: later ∧
        ⟨message, some peer⟩ ∈ (station.afterAll before).deliveriesOf occurrence ∧
        message.kind = .update ∧ Reconciliation.IsRejected message.payload) := by
  refine ⟨fun message cause h => ?_, fun raw sender cause hraw => ?_, fun message h => ?_,
    fun index stats message peer hstats hkind hpayload => ?_, ?_, fun index run h => ?_⟩
  · obtain ⟨hsame, hcause⟩ := spread_of_refused h
    exact ⟨congrArg Prod.fst hsame, hcause⟩
  · exact handle_of_malformed hraw station sender
  · exact congrArg Prod.fst (addToCache_of_declined h)
  · exact reconcile_of_rejected hstats ⟨hkind, ⟨peer, rfl⟩, hpayload⟩
  · intro payload data broken cause messages hpayload hmessages hentries hcount hbroken
    exact Reconciliation.isRejected_of_broken hpayload hmessages hentries hcount hbroken
  · obtain ⟨before, occurrence, later, ⟨message, sender⟩, hrun, hdelivery, hrejected⟩ :=
      exists_rejected_of_malformedBy_lt h
    obtain ⟨peer, rfl⟩ := hrejected.sender
    exact ⟨before, occurrence, later, message, peer, hrun, hdelivery, hrejected.kind,
      hrejected.payload⟩

/-- A station that only listens holds one message. It gets an answer with two messages, the second of
which is broken off, and does not keep the first. -/
theorem refusals_leave_no_trace_half_an_answer :
    let self : Contact := ⟨.user, [65], [], by decide, by decide⟩
    let source : Contact := ⟨.fixed, [66], [], by decide, by decide⟩
    let held := Message.make source 1 .cq []
    let fresh := Message.make source 2 .cq [7]
    let data := Bytes.ofWord countLength 2 ++ fresh.record ++ held.record.take 9
    let update := { Message.make source 3 .update (Update.record ⟨.cacheResponse, data⟩) with
      flags := Message.noCacheFlag }
    let node := { Node.new self { peers := [⟨"b", 1⟩], readOnly := true } 9 with
      engine.cache := ⟨8, [held]⟩ }
    let station := ((ofNode node).registerObserver.1).registerReconciler.1
    let run := [Occurrence.hears (held.record.take 9) none, .hears update.record (some ⟨1⟩)]
    (station.spread fresh).2 = .error .readOnly ∧ (station.spread fresh).1 = station ∧
      (station.handle (held.record.take 9) none).node.engine.stats =
        { processed := 1, malformed := 1 } ∧
      (station.addToCache held).2 = false ∧ (station.addToCache held).1 = station ∧
      station.reconcile 0 ⟨update, some ⟨1⟩⟩ =
        { station with reconcilers := [{ malformed := 1 }] } ∧
      station.malformedBy 0 = 0 ∧ (station.afterAll run).malformedBy 0 = 1 ∧
      ∃ before occurrence later message peer, run = before ++ occurrence :: later ∧
        ⟨message, some peer⟩ ∈ (station.afterAll before).deliveriesOf occurrence ∧
        message.kind = .update ∧ Reconciliation.IsRejected message.payload := by
  intro self source held fresh data update node station run
  obtain ⟨hspread, hhandle, hadd, hreconcile, hbroken, hrun⟩ := refusals_leave_no_trace station
  have hrefused : (station.spread fresh).2 = .error .readOnly := by decide +kernel
  have hdeclined : (station.addToCache held).2 = false := by decide +kernel
  have hnoise : Message.decode (held.record.take 9) =
      .error (.truncated .sequence 8 7) := by decide +kernel
  have hrejected : Reconciliation.IsRejected update.payload := by
    refine hbroken update.payload data (held.record.take 9) _ [fresh] ?_ ?_ ?_ ?_ hnoise
    · decide +kernel
    · intro message hmessage
      obtain rfl := List.mem_singleton.mp hmessage
      exact ⟨Message.canonical_eq_self_iff.mp rfl, ⟨by decide, by decide⟩⟩
    · decide +kernel
    · decide +kernel
  have hbefore : station.malformedBy 0 = 0 := rfl
  have hafter : (station.afterAll run).malformedBy 0 = 1 := by decide +kernel
  refine ⟨hrefused, (hspread fresh _ hrefused).1, ?_, hdeclined, hadd held hdeclined,
    hreconcile 0 {} update ⟨1⟩ rfl rfl hrejected, hbefore, hafter, hrun 0 run ?_⟩
  · rw [hhandle _ none _ hnoise]
    rfl
  · rw [hbefore, hafter]
    exact Nat.one_pos

end Station

end RadioGossip
