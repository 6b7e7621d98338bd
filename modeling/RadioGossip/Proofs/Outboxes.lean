import RadioGossip.Peer.Basic

/-!
# Frames that wait

An outbox **has room** for some more frames when none of the frames it holds goes to make room for
them. An empty outbox has room for as many frames as it may hold, and for one in any case.
-/

namespace RadioGossip

namespace Outbox

/-- So many more frames push out none. -/
def HasRoom (outbox : Outbox) (count : Nat) : Prop := outbox.size + count ≤ max 1 outbox.capacity

/-- Appends frames one after the other. -/
def pushAll (outbox : Outbox) (frames : List Bytes) : Outbox := frames.foldl push outbox

@[simp] theorem capacity_push (outbox : Outbox) (data : Bytes) :
    (outbox.push data).capacity = outbox.capacity := rfl

@[simp] theorem capacity_pushAll (outbox : Outbox) (frames : List Bytes) :
    (outbox.pushAll frames).capacity = outbox.capacity := by
  induction frames generalizing outbox with
  | nil => rfl
  | cons data frames ih => exact ih (outbox.push data)

theorem contents_push {outbox : Outbox} (h : outbox.HasRoom 1) (data : Bytes) :
    (outbox.push data).contents = outbox.contents ++ [data] := by
  have hdrop : outbox.frames.drop (outbox.size + 1 - outbox.capacity) = outbox.frames := by
    simp only [HasRoom, size] at h ⊢
    -- An empty outbox holds one frame even if its capacity is zero.
    by_cases hnil : outbox.frames = []
    · simp [hnil]
    · have hpos := List.length_pos_iff.mpr hnil
      rw [show outbox.frames.length + 1 - outbox.capacity = 0 by omega, List.drop_zero]
  simp [push, contents, hdrop]

theorem contents_pushAll {outbox : Outbox} {frames : List Bytes} (h : outbox.HasRoom frames.length) :
    (outbox.pushAll frames).contents = outbox.contents ++ frames := by
  induction frames generalizing outbox with
  | nil => simp [pushAll]
  | cons data frames ih =>
    simp only [HasRoom, List.length_cons] at h
    have hroom : outbox.HasRoom 1 := by
      simp only [HasRoom]
      omega
    have hpush := contents_push hroom data
    have hsize : (outbox.push data).size = outbox.size + 1 := by
      have := congrArg List.length hpush
      simpa [contents, size] using this
    have hrest : (outbox.push data).HasRoom frames.length := by
      simp only [HasRoom, hsize, capacity_push]
      omega
    show ((outbox.push data).pushAll frames).contents = _
    rw [ih hrest, hpush, List.append_assoc, List.singleton_append]

/-- Whether there is room or not, an outbox then holds some of what it held and of what came. -/
theorem contents_pushAll_sublist (outbox : Outbox) (frames : List Bytes) :
    (outbox.pushAll frames).contents.Sublist (outbox.contents ++ frames) := by
  induction frames generalizing outbox with
  | nil => simp [pushAll]
  | cons data frames ih =>
    have hpush : (outbox.push data).contents.Sublist (outbox.contents ++ [data]) := by
      simp only [push, contents, List.map_append, List.map_drop]
      exact (List.drop_sublist _ _).append (List.Sublist.refl _)
    refine (ih (outbox.push data)).trans ?_
    rw [List.append_cons]
    exact hpush.append_right frames

end Outbox

namespace Peer

/-- Puts frames into the outbox one after the other. -/
def queueAll (peer : Peer) (frames : List Bytes) : Peer := frames.foldl queue peer

@[simp] theorem queueAll_nil (peer : Peer) : peer.queueAll [] = peer := rfl

theorem queueAll_eq (peer : Peer) (frames : List Bytes) :
    peer.queueAll frames = { peer with outbox := peer.outbox.pushAll frames } := by
  induction frames generalizing peer with
  | nil => rfl
  | cons data frames ih => exact ih (peer.queue data)

end Peer

end RadioGossip
