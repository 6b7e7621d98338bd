import Mathlib.Algebra.Group.Nat.Defs
import Mathlib.Data.List.Nodup
import RadioGossip.Proofs.Lifecycles
import RadioGossip.Proofs.Outboxes

/-!
# Frames in order

While a frame is being sent, more frames may come, and they may push it out. When the send ends, the
first frame of the outbox need not be the one that was sent. The numbers of the frames tell: what was
sent is removed if it is still there, and nothing else is.

The invariant looks back at all frames that were ever **queued**, at those that were **completed**,
because they were sent or turned out to be too large, and at those that were **displaced** by later
ones. What was completed came before whatever waits, and the frame being sent stands between the two.
So frames are completed in the order in which they were queued, each at most once, and every frame
waits, was completed or was displaced.
-/

namespace RadioGossip

namespace QueuedFrame

/-- One frame was queued before another. -/
def IsBefore (frame later : QueuedFrame) : Prop := frame.number < later.number

variable {queued done later : List QueuedFrame} {frame other : QueuedFrame}

theorem eq_of_number_eq (horder : queued.Pairwise IsBefore) (hframe : frame ∈ queued)
    (hother : other ∈ queued) (heq : frame.number = other.number) : frame = other := by
  have hnodup : (queued.map number).Nodup :=
    List.pairwise_map.mpr (horder.imp fun hbefore => Nat.ne_of_lt hbefore)
  exact List.inj_on_of_nodup_map hnodup hframe hother heq

theorem nodup_of_isBefore (horder : queued.Pairwise IsBefore) : queued.Nodup :=
  horder.imp fun hbefore heq => Nat.ne_of_lt hbefore (congrArg number heq)

theorem number_le_of_mem_cons (horder : (frame :: later).Pairwise IsBefore)
    (hmem : other ∈ frame :: later) : frame.number ≤ other.number := by
  rcases List.mem_cons.mp hmem with rfl | hmem
  · exact Nat.le_refl _
  · exact Nat.le_of_lt ((List.pairwise_cons.mp horder).1 other hmem)

/-- Some frames in order, and a later one, are again some frames in order. -/
theorem append_sublist_of_isBefore (horder : queued.Pairwise IsBefore) (hdone : done.Sublist queued)
    (hframe : frame ∈ queued) (hlater : ∀ other ∈ done, other.IsBefore frame) :
    (done ++ [frame]).Sublist queued := by
  obtain ⟨older, newer, rfl⟩ := List.append_of_mem hframe
  obtain ⟨first, last, rfl, hfirst, hlast⟩ := List.sublist_append_iff.mp hdone
  have hnewer := (List.pairwise_append.mp horder).2.1
  obtain rfl : last = [] := by
    refine List.eq_nil_iff_forall_not_mem.mpr fun other hother => ?_
    have hbefore : other.number < frame.number := hlater other (List.mem_append_right _ hother)
    exact absurd (number_le_of_mem_cons hnewer (hlast.subset hother)) (Nat.not_le.mpr hbefore)
  rw [List.append_nil]
  exact hfirst.append (List.singleton_sublist.mpr List.mem_cons_self)

end QueuedFrame

open QueuedFrame

namespace Outbox

variable {outbox after : Outbox} {queued completed displaced : List QueuedFrame}
  {sent : QueuedFrame}

/-- The frames that a new one displaces. -/
def surplus (outbox : Outbox) : List QueuedFrame :=
  outbox.frames.take (outbox.size + 1 - outbox.capacity)

/-- What may happen to an outbox: the frames that are queued, completed and displaced by it. -/
inductive Drains (outbox : Outbox) :
    (queued completed displaced : List QueuedFrame) → (after : Outbox) → Prop where
  | pushed (data : Bytes) :
    Drains outbox [⟨outbox.nextNumber, data⟩] [] outbox.surplus (outbox.push data)
  | begun (after : Outbox) (frame : QueuedFrame) (hbegin : outbox.begin? = some (after, frame)) :
    Drains outbox [] [] [] after
  | completed : Drains outbox [] outbox.inFlight.toList [] outbox.complete
  | givenUp : Drains outbox [] [] [] outbox.giveUp
  | idle : Drains outbox [] [] [] outbox

/-- An outbox is in order after these frames were queued, completed and displaced. -/
structure InOrder (outbox : Outbox) (queued completed displaced : List QueuedFrame) : Prop where
  numbered : queued.Pairwise IsBefore
  lt_nextNumber : ∀ frame ∈ queued, frame.number < outbox.nextNumber
  waiting_sublist : outbox.frames.Sublist queued
  completed_sublist : completed.Sublist queued
  /-- What was completed was queued before whatever waits. -/
  completed_before : ∀ frame ∈ completed, ∀ waiting ∈ outbox.frames, frame.IsBefore waiting
  sent_mem : ∀ sent, outbox.inFlight = some sent → sent ∈ queued
  /-- The frame being sent was queued after what was completed. -/
  completed_before_sent : ∀ sent, outbox.inFlight = some sent →
    ∀ frame ∈ completed, frame.IsBefore sent
  /-- The frame being sent is the first one that waits, or it was displaced. -/
  sent_le : ∀ sent, outbox.inFlight = some sent →
    ∀ waiting ∈ outbox.frames, sent.number ≤ waiting.number
  accounted : ∀ frame ∈ queued,
    frame ∈ outbox.frames ∨ frame ∈ completed ∨ frame ∈ displaced
  size_le : outbox.size ≤ outbox.capacity

theorem inOrder_empty (capacity : Nat) : (empty capacity).InOrder [] [] [] where
  numbered := List.Pairwise.nil
  lt_nextNumber := nofun
  waiting_sublist := List.Sublist.refl []
  completed_sublist := List.Sublist.refl []
  completed_before := nofun
  sent_mem := nofun
  completed_before_sent := nofun
  sent_le := nofun
  accounted := nofun
  size_le := Nat.zero_le capacity

/-! ## One step -/

theorem begin?_eq_some {frame : QueuedFrame} (hbegin : outbox.begin? = some (after, frame)) :
    outbox.inFlight = none ∧ outbox.frames.head? = some frame ∧
      after = { outbox with inFlight := some frame } := by
  rw [begin?] at hbegin
  split at hbegin
  · next head rest hnone hframes =>
    obtain ⟨rfl, rfl⟩ := Prod.mk.inj (Option.some.inj hbegin)
    exact ⟨hnone, by rw [hframes, List.head?_cons], rfl⟩
  · cases hbegin

theorem complete_of_idle (hidle : outbox.inFlight = none) : outbox.complete = outbox := by
  rw [complete, hidle]

/-- Completing a send is about the frames only. -/
theorem exists_complete_eq (outbox : Outbox) :
    ∃ frames, outbox.complete = { outbox with frames, inFlight := none } := by
  cases hsent : outbox.inFlight with
  | none => exact ⟨outbox.frames, by rw [complete_of_idle hsent, ← hsent]⟩
  | some sent =>
    rw [complete, hsent]
    simp only [popHead]
    split
    · next frame frames hframes =>
      split
      · exact ⟨frames, rfl⟩
      · exact ⟨outbox.frames, rfl⟩
    · exact ⟨outbox.frames, rfl⟩

theorem InOrder.waiting (h : outbox.InOrder queued completed displaced) :
    outbox.frames.Pairwise IsBefore := h.numbered.sublist h.waiting_sublist

/-- Completing a send removes the frame that was sent, if it still waits, and no other one. -/
theorem InOrder.complete_eq (h : outbox.InOrder queued completed displaced)
    (hsent : outbox.inFlight = some sent) :
    outbox.complete = { outbox with frames := outbox.frames.erase sent, inFlight := none } := by
  rw [Outbox.complete, hsent]
  simp only [popHead]
  cases hframes : outbox.frames with
  | nil => simp [hframes]
  | cons head rest =>
    have hhead : head ∈ outbox.frames := hframes ▸ List.mem_cons_self
    by_cases hnumber : head.number = sent.number
    · obtain rfl : head = sent := eq_of_number_eq h.numbered (h.waiting_sublist.subset hhead)
        (h.sent_mem sent hsent) hnumber
      simp
    · -- The frame was displaced, for the first one that waits is a later one.
      have hlt : sent.number < head.number :=
        Nat.lt_of_le_of_ne (h.sent_le sent hsent head hhead) (Ne.symm hnumber)
      have hgone : sent ∉ head :: rest := fun hmem =>
        absurd (number_le_of_mem_cons (hframes ▸ h.waiting) hmem) (Nat.not_le.mpr hlt)
      simp only [hnumber, if_false, List.erase_of_not_mem hgone]
      rw [← hframes]

theorem mem_frames_push {data : Bytes} {frame : QueuedFrame}
    (hframe : frame ∈ (outbox.push data).frames) :
    frame ∈ outbox.frames ∨ frame = ⟨outbox.nextNumber, data⟩ :=
  (List.mem_append.mp hframe).imp (fun hkept => (List.drop_sublist _ _).subset hkept)
    List.mem_singleton.mp

theorem mem_surplus_or_frames_push {frame : QueuedFrame} (hframe : frame ∈ outbox.frames)
    (data : Bytes) : frame ∈ outbox.surplus ∨ frame ∈ (outbox.push data).frames := by
  rw [← List.take_append_drop (outbox.size + 1 - outbox.capacity) outbox.frames] at hframe
  exact (List.mem_append.mp hframe).imp id (List.mem_append_left _)

theorem InOrder.push (h : outbox.InOrder queued completed displaced) (hroom : 1 ≤ outbox.capacity)
    (data : Bytes) :
    (outbox.push data).InOrder (queued ++ [⟨outbox.nextNumber, data⟩]) completed
      (displaced ++ outbox.surplus) where
  numbered := by
    refine List.pairwise_append.mpr ⟨h.numbered, List.pairwise_singleton _ _, ?_⟩
    intro frame hframe new hnew
    obtain rfl := List.mem_singleton.mp hnew
    exact h.lt_nextNumber frame hframe
  lt_nextNumber frame hframe := by
    rcases List.mem_append.mp hframe with hframe | hframe
    · exact Nat.lt_succ_of_lt (h.lt_nextNumber frame hframe)
    · obtain rfl := List.mem_singleton.mp hframe
      exact Nat.lt_succ_self _
  waiting_sublist := ((List.drop_sublist _ _).trans h.waiting_sublist).append (List.Sublist.refl _)
  completed_sublist := h.completed_sublist.trans (List.sublist_append_left _ _)
  completed_before frame hframe waiting hwaiting := by
    rcases mem_frames_push hwaiting with hwaiting | rfl
    · exact h.completed_before frame hframe waiting hwaiting
    · exact h.lt_nextNumber frame (h.completed_sublist.subset hframe)
  sent_mem sent hsent := List.mem_append_left _ (h.sent_mem sent hsent)
  completed_before_sent := h.completed_before_sent
  sent_le sent hsent waiting hwaiting := by
    rcases mem_frames_push hwaiting with hwaiting | rfl
    · exact h.sent_le sent hsent waiting hwaiting
    · exact Nat.le_of_lt (h.lt_nextNumber sent (h.sent_mem sent hsent))
  accounted frame hframe := by
    rcases List.mem_append.mp hframe with hframe | hframe
    · rcases h.accounted frame hframe with hwaiting | hdone | hgone
      · rcases mem_surplus_or_frames_push hwaiting data with hgone | hwaiting
        · exact .inr (.inr (List.mem_append_right _ hgone))
        · exact .inl hwaiting
      · exact .inr (.inl hdone)
      · exact .inr (.inr (List.mem_append_left _ hgone))
    · exact .inl (List.mem_append_right _ hframe)
  size_le := by
    have hsize := h.size_le
    simp only [Outbox.push, size, List.length_append, List.length_drop, List.length_singleton]
      at hsize ⊢
    omega

theorem InOrder.begin (h : outbox.InOrder queued completed displaced) {frame : QueuedFrame}
    (hbegin : outbox.begin? = some (after, frame)) : after.InOrder queued completed displaced := by
  obtain ⟨-, hhead, rfl⟩ := begin?_eq_some hbegin
  obtain ⟨rest, hframes⟩ := List.head?_eq_some_iff.mp hhead
  have hmem : frame ∈ outbox.frames := hframes ▸ List.mem_cons_self
  refine { h with sent_mem := ?_, completed_before_sent := ?_, sent_le := ?_ }
  · rintro _ ⟨rfl⟩
    exact h.waiting_sublist.subset hmem
  · rintro _ ⟨rfl⟩ done hdone
    exact h.completed_before done hdone frame hmem
  · rintro _ ⟨rfl⟩ waiting hwaiting
    exact number_le_of_mem_cons (hframes ▸ h.waiting) (hframes ▸ hwaiting)

theorem InOrder.giveUp (h : outbox.InOrder queued completed displaced) :
    outbox.giveUp.InOrder queued completed displaced :=
  { h with sent_mem := nofun, completed_before_sent := nofun, sent_le := nofun }

theorem InOrder.complete (h : outbox.InOrder queued completed displaced) :
    outbox.complete.InOrder queued (completed ++ outbox.inFlight.toList) displaced := by
  cases hsent : outbox.inFlight with
  | none =>
    rw [complete_of_idle hsent, Option.toList_none, List.append_nil]
    exact h
  | some sent =>
    rw [h.complete_eq hsent]
    have hmem := h.sent_mem sent hsent
    refine ⟨h.numbered, h.lt_nextNumber, ?_, ?_, ?_, nofun, nofun, nofun, ?_, ?_⟩
    · exact List.erase_sublist.trans h.waiting_sublist
    · exact append_sublist_of_isBefore h.numbered h.completed_sublist hmem
        (h.completed_before_sent sent hsent)
    · intro frame hframe waiting hwaiting
      obtain ⟨hne, hleft⟩ := (nodup_of_isBefore h.waiting).mem_erase_iff.mp hwaiting
      rcases List.mem_append.mp hframe with hframe | hframe
      · exact h.completed_before frame hframe waiting hleft
      · obtain rfl := List.mem_singleton.mp hframe
        refine Nat.lt_of_le_of_ne (h.sent_le frame hsent waiting hleft) fun heq => hne ?_
        exact eq_of_number_eq h.numbered (h.waiting_sublist.subset hleft) hmem heq.symm
    · intro frame hframe
      rcases h.accounted frame hframe with hwaiting | hdone | hgone
      · by_cases heq : frame = sent
        · exact .inr (.inl (List.mem_append_right _ (List.mem_singleton.mpr heq)))
        · exact .inl ((List.mem_erase_of_ne heq).mpr hwaiting)
      · exact .inr (.inl (List.mem_append_left _ hdone))
      · exact .inr (.inr hgone)
    · exact Nat.le_trans List.length_erase_le h.size_le

/-- **Whatever happens** to an outbox keeps it in order. -/
theorem InOrder.of_drains {newer done gone : List QueuedFrame}
    (h : outbox.InOrder queued completed displaced) (hroom : 1 ≤ outbox.capacity)
    (hdrains : outbox.Drains newer done gone after) :
    after.InOrder (queued ++ newer) (completed ++ done) (displaced ++ gone) := by
  cases hdrains with
  | pushed data => simpa using h.push hroom data
  | begun _ frame hbegin => simpa using h.begin hbegin
  | completed => simpa using h.complete
  | givenUp => simpa using h.giveUp
  | idle => simpa using h

theorem Drains.capacity_eq {newer done gone : List QueuedFrame}
    (hdrains : outbox.Drains newer done gone after) : after.capacity = outbox.capacity := by
  cases hdrains with
  | begun _ frame hbegin =>
    obtain ⟨-, -, rfl⟩ := begin?_eq_some hbegin
    rfl
  | completed =>
    obtain ⟨frames, hcomplete⟩ := outbox.exists_complete_eq
    rw [hcomplete]
  | _ => rfl

/-- The next number goes up by one at most. -/
theorem Drains.nextNumber_le {newer done gone : List QueuedFrame}
    (hdrains : outbox.Drains newer done gone after) : after.nextNumber ≤ outbox.nextNumber + 1 := by
  cases hdrains with
  | pushed data => exact Nat.le_refl _
  | begun _ frame hbegin =>
    obtain ⟨-, -, rfl⟩ := begin?_eq_some hbegin
    exact Nat.le_succ _
  | completed =>
    obtain ⟨frames, hcomplete⟩ := outbox.exists_complete_eq
    rw [hcomplete]
    exact Nat.le_succ _
  | _ => exact Nat.le_succ _

/-- A frame goes because it was completed, or because it stands first in a full outbox into which
another one is put. -/
theorem InOrder.completed_or_displaced {newer done gone : List QueuedFrame} {frame : QueuedFrame}
    (h : outbox.InOrder queued completed displaced) (hdrains : outbox.Drains newer done gone after)
    (hwaits : frame ∈ outbox.frames) (hgone : frame ∉ after.frames) :
    done = [frame] ∨
      newer ≠ [] ∧ outbox.size = outbox.capacity ∧ outbox.frames.head? = some frame := by
  cases hdrains with
  | pushed data =>
    have hsurplus := (mem_surplus_or_frames_push hwaits data).resolve_right hgone
    have hsize := h.size_le
    by_cases hfull : outbox.size = outbox.capacity
    · refine .inr ⟨List.cons_ne_nil _ _, hfull, ?_⟩
      rw [surplus, hfull, Nat.add_sub_cancel_left, List.take_one, Option.mem_toList] at hsurplus
      exact hsurplus
    · rw [surplus, show outbox.size + 1 - outbox.capacity = 0 by omega] at hsurplus
      cases hsurplus
  | begun _ head hbegin =>
    obtain ⟨-, -, rfl⟩ := begin?_eq_some hbegin
    exact absurd hwaits hgone
  | completed =>
    cases hsent : outbox.inFlight with
    | none =>
      rw [complete_of_idle hsent] at hgone
      exact absurd hwaits hgone
    | some sent =>
      rw [h.complete_eq hsent] at hgone
      by_cases heq : frame = sent
      · exact .inl (by rw [heq, Option.toList_some])
      · exact absurd ((List.mem_erase_of_ne heq).mpr hwaits) hgone
  | givenUp => exact absurd hwaits hgone
  | idle => exact absurd hwaits hgone

end Outbox

namespace PeerMove

/-- Whether a frame is done with after a send that ended so. -/
def isFinal : Except LinkError Unit → Bool
  | .ok () | .error (.frameTooLarge _ _) => true
  | .error _ => false

/-- What a move puts into an outbox. -/
def queues (outbox : Outbox) : PeerMove → List QueuedFrame
  | queue data => [⟨outbox.nextNumber, data⟩]
  | _ => []

/-- What a move completes. -/
def completes (outbox : Outbox) : PeerMove → List QueuedFrame
  | finishSend _ outcome => if isFinal outcome then outbox.inFlight.toList else []
  | _ => []

/-- What a move displaces. -/
def displaces (outbox : Outbox) : PeerMove → List QueuedFrame
  | queue _ => outbox.surplus
  | _ => []

end PeerMove

namespace Peer

variable {peer : Peer}

theorem outbox_connectionLost (peer : Peer) (connection : ConnectionId) :
    (peer.connectionLost connection).1.outbox = peer.outbox := by
  rw [connectionLost]
  split <;> rfl

theorem outbox_finishSend (peer : Peer) (connection : ConnectionId)
    (outcome : Except LinkError Unit) :
    (peer.finishSend connection outcome).1.outbox =
      if PeerMove.isFinal outcome then peer.outbox.complete else peer.outbox.giveUp := by
  simp only [finishSend]
  split
  · rfl
  · rfl
  · next cause hcause =>
    have hkept : PeerMove.isFinal (.error cause) = false := by
      cases cause with
      | frameTooLarge size max => exact absurd rfl (hcause size max)
      | _ => rfl
    rw [hkept, if_neg Bool.false_ne_true]
    repeat' split
    all_goals first | exact outbox_connectionLost _ _ | rfl

theorem drains_step (peer : Peer) (move : PeerMove) :
    peer.outbox.Drains (move.queues peer.outbox) (move.completes peer.outbox)
      (move.displaces peer.outbox) (peer.after move).outbox := by
  cases move with
  | queue data => exact .pushed data
  | beginSend =>
    simp only [after, step, beginSend?]
    split
    · next hbegin => exact .begun _ _ hbegin
    · exact .idle
  | finishSend connection outcome =>
    simp only [after, step, outbox_finishSend, PeerMove.completes]
    split
    · exact .completed
    · exact .givenUp
  | beginConnect =>
    simp only [after, step, beginConnect]
    split <;> exact .idle
  | dialFailed =>
    simp only [after, step, dialFailed]
    split <;> exact .idle
  | setConnection connection =>
    simp only [after, step, setConnection]
    split <;> exact .idle
  | connectionLost connection =>
    simp only [after, step, outbox_connectionLost]
    exact .idle
  | close => exact .idle

/-! ## Runs -/

variable {queued completed displaced : List QueuedFrame}

/-- The frames that some moves put into the outbox. -/
def queuedBy (peer : Peer) (moves : List PeerMove) : List QueuedFrame :=
  peer.along (fun peer move => move.queues peer.outbox) moves

/-- The frames that some moves complete. -/
def completedBy (peer : Peer) (moves : List PeerMove) : List QueuedFrame :=
  peer.along (fun peer move => move.completes peer.outbox) moves

/-- The frames that some moves displace. -/
def displacedBy (peer : Peer) (moves : List PeerMove) : List QueuedFrame :=
  peer.along (fun peer move => move.displaces peer.outbox) moves

theorem capacity_afterAll (peer : Peer) (moves : List PeerMove) :
    (peer.afterAll moves).outbox.capacity = peer.outbox.capacity := by
  induction moves generalizing peer with
  | nil => rfl
  | cons move moves ih => exact (ih (peer.after move)).trans (peer.drains_step move).capacity_eq

/-- The next number is no greater than the number of moves, from where it was. -/
theorem nextNumber_afterAll_le (peer : Peer) (moves : List PeerMove) :
    (peer.afterAll moves).outbox.nextNumber ≤ peer.outbox.nextNumber + moves.length := by
  induction moves generalizing peer with
  | nil => exact Nat.le_refl _
  | cons move moves ih =>
    calc (peer.afterAll (move :: moves)).outbox.nextNumber
        ≤ (peer.after move).outbox.nextNumber + moves.length := ih (peer.after move)
      _ ≤ peer.outbox.nextNumber + 1 + moves.length :=
        Nat.add_le_add_right (peer.drains_step move).nextNumber_le _
      _ = peer.outbox.nextNumber + (move :: moves).length := by
        rw [List.length_cons, Nat.add_right_comm, Nat.add_assoc]

/-- **A run** keeps an outbox in order. -/
theorem inOrder_afterAll (h : peer.outbox.InOrder queued completed displaced)
    (hroom : 1 ≤ peer.outbox.capacity) (moves : List PeerMove) :
    (peer.afterAll moves).outbox.InOrder (queued ++ peer.queuedBy moves)
      (completed ++ peer.completedBy moves) (displaced ++ peer.displacedBy moves) := by
  induction moves generalizing peer queued completed displaced with
  | nil => simpa [queuedBy, completedBy, displacedBy, along, afterAll] using h
  | cons move moves ih =>
    have hdrains := peer.drains_step move
    have hroom' : 1 ≤ (peer.after move).outbox.capacity := hdrains.capacity_eq ▸ hroom
    have hrest := ih (h.of_drains hroom hdrains) hroom'
    simp only [List.append_assoc] at hrest
    exact hrest

/-- **An outbox loses, repeats and reorders nothing** while it is emptied. Whatever happens to a new
peer whose outbox holds one frame or more: the numbers of the frames that were put into it increase,
and the next one is greater than all of them. It fits 64 bits after fewer than `2 ^ 64` moves. The
frames that were completed, because they were sent or turned out to be too large, are some of
those in the same order, and so are the ones that wait, of which there are as many as may wait at
most. A frame that neither waits nor was completed was displaced. When a send ends, the frame that was
sent is the only one that goes, if it is still there, and none goes if it is to be tried again. A
frame leaves the outbox in two ways: its send was completed, or it is the oldest one of a full outbox
into which another one is put. -/
theorem outbox_drains_in_order (id : PeerId) (origin : Origin) {queueSize : Nat} (retryBudget : Nat)
    (hqueue : 1 ≤ queueSize) (moves : List PeerMove) :
    let start := new id origin queueSize retryBudget
    let outbox := (start.afterAll moves).outbox
    (start.queuedBy moves).Pairwise IsBefore ∧
    (∀ frame ∈ start.queuedBy moves, frame.number < outbox.nextNumber) ∧
    (moves.length < 2 ^ 64 → outbox.nextNumber < 2 ^ 64) ∧
    (start.completedBy moves).Pairwise IsBefore ∧
    (start.completedBy moves).Sublist (start.queuedBy moves) ∧
    outbox.frames.Pairwise IsBefore ∧
    outbox.frames.Sublist (start.queuedBy moves) ∧
    outbox.size ≤ queueSize ∧
    (∀ frame ∈ start.queuedBy moves, frame ∈ outbox.frames ∨
      frame ∈ start.completedBy moves ∨ frame ∈ start.displacedBy moves) ∧
    (∀ sent, outbox.inFlight = some sent → ∀ connection outcome,
      ((start.afterAll moves).after (.finishSend connection outcome)).outbox.frames =
        if PeerMove.isFinal outcome then outbox.frames.erase sent else outbox.frames) ∧
    ∀ move frame, frame ∈ outbox.frames →
      frame ∉ ((start.afterAll moves).after move).outbox.frames →
      (∃ connection outcome, move = .finishSend connection outcome ∧
        PeerMove.isFinal outcome = true ∧ outbox.inFlight = some frame) ∨
      (∃ data, move = .queue data ∧ outbox.size = queueSize ∧
        outbox.frames.head? = some frame) := by
  intro start outbox
  have hstart : start.outbox.InOrder [] [] [] := Outbox.inOrder_empty queueSize
  have horder : outbox.InOrder (start.queuedBy moves) (start.completedBy moves)
      (start.displacedBy moves) := inOrder_afterAll hstart hqueue moves
  have hcapacity : outbox.capacity = queueSize := start.capacity_afterAll moves
  refine ⟨horder.numbered, horder.lt_nextNumber, fun hlength => ?_,
    horder.numbered.sublist horder.completed_sublist, horder.completed_sublist, horder.waiting,
    horder.waiting_sublist, hcapacity ▸ horder.size_le, horder.accounted,
    fun sent hsent connection outcome => ?_, fun move frame hwaits hgone => ?_⟩
  · have hnext : outbox.nextNumber ≤ 0 + moves.length := start.nextNumber_afterAll_le moves
    rw [Nat.zero_add] at hnext
    exact Nat.lt_of_le_of_lt hnext hlength
  · simp only [after, step, outbox_finishSend]
    split
    · exact congrArg Outbox.frames (horder.complete_eq hsent)
    · rfl
  · rcases horder.completed_or_displaced ((start.afterAll moves).drains_step move) hwaits hgone with
      hdone | ⟨hnew, hfull, hhead⟩
    · cases move with
      | finishSend connection outcome =>
        simp only [PeerMove.completes] at hdone
        split at hdone
        · next hfinal =>
          exact .inl ⟨connection, outcome, rfl, hfinal, Option.toList_eq_singleton_iff.mp hdone⟩
        · cases hdone
      | _ => cases hdone
    · cases move with
      | queue data => exact .inr ⟨data, rfl, hfull.trans hcapacity, hhead⟩
      | _ => exact absurd rfl hnew

/-- The outbox holds one frame. A second one displaces the first one while it is being sent, and
however the send ends, the second one stays. The numbers are far from the limit. -/
theorem outbox_drains_in_order_displaced_in_flight :
    let start := new ⟨1⟩ (.outbound ⟨"a", 1⟩) 1 3
    let moves : List PeerMove := [.setConnection ⟨1⟩, .queue [1], .beginSend, .queue [2]]
    let outbox := (start.afterAll moves).outbox
    1 ≤ 1 ∧ moves.length < 2 ^ 64 ∧ outbox.nextNumber < 2 ^ 64 ∧
      outbox.inFlight = some ⟨0, [1]⟩ ∧ start.displacedBy moves = [⟨0, [1]⟩] ∧
      ∀ connection outcome, ((start.afterAll moves).after
        (.finishSend connection outcome)).outbox.frames = [⟨1, [2]⟩] := by
  intro start moves outbox
  have hqueue : 1 ≤ 1 := Nat.le_refl 1
  have hlength : moves.length < 2 ^ 64 := by decide
  obtain ⟨-, -, hnext, -, -, -, -, -, -, hsends, -⟩ :=
    outbox_drains_in_order ⟨1⟩ (.outbound ⟨"a", 1⟩) 3 hqueue moves
  refine ⟨hqueue, hlength, hnext hlength, rfl, rfl, fun connection outcome => ?_⟩
  rw [hsends ⟨0, [1]⟩ rfl connection outcome]
  split <;> rfl

end Peer

end RadioGossip
