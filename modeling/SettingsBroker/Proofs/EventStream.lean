/-
# What a reader of an event stream has not seen

A reader at a position has still to see the kept events from its position on; if
it has fallen behind what is kept, it is owed a notice of that first.  This module
proves that a stream never loses an event silently: while events are sent, what a
reader has not seen stays unseen or the reader falls behind, and what it finds is
exactly the first of what it has not seen.
-/

import SettingsBroker.EventStream

namespace SettingsBroker

namespace EventStream

variable {α : Type}

/-- The kept events that a reader at a position has not seen, the oldest first. -/
def unseen (stream : EventStream α) (position : Nat) : List α :=
  stream.kept.drop (position - stream.dropped)

/-- An open stream, with a reader at a position that the stream has reached. -/
structure FollowedAt (stream : EventStream α) (position : Nat) : Prop where
  /-- Events can be sent. -/
  opened : stream.closed = false
  /-- Only what was sent is kept. -/
  kept_le : stream.kept.length ≤ stream.sent
  /-- The reader has not seen more than what was sent. -/
  position_le : position ≤ stream.sent

/-- An event is still to be found by a reader: it is unseen, or the reader has
fallen behind and will be told so. -/
def Due (stream : EventStream α) (position : Nat) (event : α) : Prop :=
  event ∈ stream.unseen position ∨ position < stream.dropped

variable {stream : EventStream α} {position next : Nat} {event sent : α}

theorem send_dropped (sent : α) (hopened : stream.closed = false)
    (hkept : stream.kept.length ≤ stream.sent) :
    (stream.send sent).dropped =
      stream.dropped + (stream.kept.length + 1 - stream.capacity) := by
  simp only [send, hopened, dropped, Bool.false_eq_true, if_false, List.length_drop,
    List.length_append, List.length_singleton]
  omega

theorem FollowedAt.send (h : stream.FollowedAt position) (event : α) :
    (stream.send event).FollowedAt position := by
  obtain ⟨hopened, hkept, hposition⟩ := h
  constructor
  · simp [EventStream.send, hopened]
  · simp only [EventStream.send, hopened, Bool.false_eq_true, if_false, List.length_drop,
      List.length_append, List.length_singleton]
    omega
  · simp only [EventStream.send, hopened, Bool.false_eq_true, if_false]
    omega

/-- What is unseen after an event was sent, for a reader that has not fallen
behind. -/
theorem unseen_send (h : stream.FollowedAt position)
    (hreached : (stream.send sent).dropped ≤ position) :
    (stream.send sent).unseen position = stream.unseen position ++ [sent] := by
  obtain ⟨hopened, hkept, hposition⟩ := h
  have hdropped := send_dropped sent hopened hkept
  have hlength : position - stream.dropped ≤ stream.kept.length := by
    simp only [dropped]
    omega
  have hkept' : (stream.send sent).kept =
      (stream.kept ++ [sent]).drop (stream.kept.length + 1 - stream.capacity) := by
    simp [EventStream.send, hopened]
  unfold unseen
  rw [hkept', List.drop_drop, ← List.drop_append_of_le_length hlength]
  congr 1
  omega

/-- A reader that falls behind loses only what it would have seen first. -/
theorem unseen_send_suffix (h : stream.FollowedAt position) (sent : α) :
    (stream.send sent).unseen position <:+ stream.unseen position ++ [sent] := by
  by_cases hbehind : position < (stream.send sent).dropped
  · have hdropped := send_dropped sent h.opened h.kept_le
    have hlength : position - stream.dropped ≤ stream.kept.length := by
      have hposition := h.position_le
      simp only [dropped]
      omega
    have hkept : (stream.send sent).unseen position =
        (stream.kept ++ [sent]).drop (stream.kept.length + 1 - stream.capacity) := by
      rw [unseen, Nat.sub_eq_zero_of_le (Nat.le_of_lt hbehind), List.drop_zero]
      simp [EventStream.send, h.opened]
    have hlost : stream.kept.length + 1 - stream.capacity =
        (position - stream.dropped) +
          (stream.kept.length + 1 - stream.capacity - (position - stream.dropped)) := by
      omega
    rw [hkept, unseen, ← List.drop_append_of_le_length hlength, hlost, ← List.drop_drop]
    exact List.drop_suffix _ _
  · exact ⟨[], unseen_send h (Nat.le_of_not_lt hbehind)⟩

/-- The event that is sent is due. -/
theorem due_send (h : stream.FollowedAt position) (sent : α) :
    (stream.send sent).Due position sent := by
  by_cases hbehind : position < (stream.send sent).dropped
  · exact Or.inr hbehind
  · left
    rw [unseen_send h (Nat.le_of_not_lt hbehind)]
    exact List.mem_append_right _ (List.mem_singleton_self sent)

/-- What is due stays due while events are sent. -/
theorem Due.send (hdue : stream.Due position event) (h : stream.FollowedAt position) (sent : α) :
    (stream.send sent).Due position event := by
  by_cases hbehind : position < (stream.send sent).dropped
  · exact Or.inr hbehind
  · left
    rw [unseen_send h (Nat.le_of_not_lt hbehind)]
    rcases hdue with hunseen | hlate
    · exact List.mem_append_left _ hunseen
    · -- What a stream has dropped it never has again.
      have hdropped := send_dropped sent h.opened h.kept_le
      omega

/-- A reader that finds an event has found the first one that it had not seen. -/
theorem unseen_of_receive_event (h : stream.receive position = (.event event, next)) :
    stream.unseen position = event :: stream.unseen next ∧ stream.dropped ≤ position ∧
      next = position + 1 ∧ next ≤ stream.dropped + stream.kept.length := by
  unfold receive at h
  split at h
  · cases h
  · next hreached =>
    split at h
    · next found hfound =>
      obtain ⟨hevent, rfl⟩ := Prod.mk.inj h
      obtain rfl := Reception.event.inj hevent
      obtain ⟨hindex, hget⟩ := List.getElem?_eq_some_iff.mp hfound
      refine ⟨?_, Nat.le_of_not_lt hreached, rfl, by omega⟩
      unfold unseen
      rw [List.drop_eq_getElem_cons hindex, hget]
      congr 2
      omega
    · split at h <;> cases h

/-- A reader is told that it missed events when it has fallen behind, and then
stands at the oldest event that is kept. -/
theorem position_of_receive_lagged {missed : Nat}
    (h : stream.receive position = (.lagged missed, next)) :
    position < stream.dropped ∧ next = stream.dropped := by
  unfold receive at h
  split at h
  · next hbehind => exact ⟨hbehind, (Prod.mk.inj h).2.symm⟩
  · split at h
    · cases h
    · split at h <;> cases h

/-- Where a reader of an open stream finds nothing, nothing is due. -/
theorem not_due_of_receive_empty (hempty : (stream.receive position).1 = .empty) (event : α) :
    ¬ stream.Due position event := by
  unfold receive at hempty
  split at hempty
  · cases hempty
  · next hreached =>
    split at hempty
    · cases hempty
    · next hnone =>
      rintro (hunseen | hbehind)
      · rw [unseen, List.drop_eq_nil_of_le (List.getElem?_eq_none_iff.mp hnone)] at hunseen
        cases hunseen
      · exact hreached hbehind

theorem FollowedAt.receive_event (h : stream.FollowedAt position)
    (hreceive : stream.receive position = (.event event, next)) : stream.FollowedAt next := by
  obtain ⟨-, -, -, hnext⟩ := unseen_of_receive_event hreceive
  refine ⟨h.opened, h.kept_le, Nat.le_trans hnext ?_⟩
  have hkept := h.kept_le
  simp only [dropped]
  omega

theorem FollowedAt.receive_lagged {missed : Nat} (h : stream.FollowedAt position)
    (hreceive : stream.receive position = (.lagged missed, next)) : stream.FollowedAt next := by
  obtain ⟨-, rfl⟩ := position_of_receive_lagged hreceive
  exact ⟨h.opened, h.kept_le, Nat.sub_le _ _⟩

/-- A reader may begin to follow a stream at its end, whatever was sent before. -/
theorem followedAt_sendAll (capacity : Nat) (earlier : List α) :
    ((empty capacity).sendAll earlier).FollowedAt ((empty capacity).sendAll earlier).sent := by
  have hfold : ∀ stream : EventStream α, stream.FollowedAt 0 →
      (earlier.foldl EventStream.send stream).FollowedAt 0 := by
    induction earlier with
    | nil => exact fun stream h => h
    | cons event earlier ih => exact fun stream h => ih _ (h.send event)
  obtain ⟨hopened, hkept, -⟩ :=
    hfold (empty capacity) ⟨rfl, Nat.le_refl 0, Nat.le_refl 0⟩
  exact ⟨hopened, hkept, Nat.le_refl _⟩

end EventStream

end SettingsBroker
