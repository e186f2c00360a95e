import DpdkTcp.Lib.Slice
import DpdkTcp.Input.Stages

/-!
# Appending in-order bytes

An in-order segment adds windows to the in-order queue for its head buffer and
for each further link of the chain, as far as there is room. What is added is
a prefix of the bytes the segment carries, and `delivered` is its length.
-/

namespace DpdkTcp

open Slice

theorem InOrderSegment.bytes_eq_slice (seg : InOrderSegment) :
    seg.bytes = slice seg.mbuf.data seg.offset seg.len :=
  rfl

/-- The buffer context holds the payload at its offset. -/
def MbufInsertCtx.Backs (ctx : MbufInsertCtx) (payload : List UInt8) : Prop :=
  slice ctx.mbuf.data ctx.payloadOffset payload.length = payload

/-- The bytes in the links behind the head. -/
def chainBytes (mbufCtx : Option MbufInsertCtx) : List UInt8 :=
  match mbufCtx with
  | some ctx => ctx.next.flatMap RxMbuf.data
  | none => []

/-- All payload bytes of a segment: the head's and those of the chain. -/
def carriedBytes (seg : ParsedSegment) (mbufCtx : Option MbufInsertCtx) : List UInt8 :=
  seg.payload ++ chainBytes mbufCtx

namespace RecvQueue

variable (recv : RecvQueue)

/-- The queue after one more window. -/
def pushed (window : InOrderSegment) : RecvQueue :=
  { recv with bytes := recv.bytes ++ [window] }

theorem contents_pushed (window : InOrderSegment) :
    (recv.pushed window).contents = recv.contents ++ window.bytes := by
  simp [pushed, contents]

theorem bufferedBytes_pushed (window : InOrderSegment) :
    (recv.pushed window).bufferedBytes = recv.bufferedBytes + window.len := by
  simp [pushed, bufferedBytes]

end RecvQueue

/-- `after` extends the queue of `before` by `added`, and `delivered` counts it. -/
structure Extends (before after : Appended) (added : List UInt8) : Prop where
  contents : after.recv.contents = before.recv.contents ++ added
  delivered : after.delivered = before.delivered + added.length
  buffered : after.recv.bufferedBytes = before.recv.bufferedBytes + added.length
  cap : after.recv.cap = before.recv.cap
  reorder : after.recv.reorder = before.recv.reorder

namespace Extends

variable {first second third : Appended} {left right : List UInt8}

theorem refl (appended : Appended) : Extends appended appended [] :=
  ⟨by simp, by simp, by simp, rfl, rfl⟩

theorem trans (one : Extends first second left) (two : Extends second third right) :
    Extends first third (left ++ right) := by
  refine ⟨?_, ?_, ?_, two.cap.trans one.cap, two.reorder.trans one.reorder⟩
  · rw [two.contents, one.contents, List.append_assoc]
  · rw [two.delivered, one.delivered, List.length_append]
    omega
  · rw [two.buffered, one.buffered, List.length_append]
    omega

theorem freeSpace (extension : Extends first second left) :
    second.recv.freeSpace = first.recv.freeSpace - left.length := by
  simp only [RecvQueue.freeSpace, extension.cap, extension.buffered]
  omega

end Extends

/-- Pushing a window of `take` bytes appends exactly these bytes. -/
theorem push_extends (appended : Appended) {mbuf : RxMbuf} {offset take : ℕ}
    (inside : offset + take ≤ mbuf.data.length) :
    Extends appended (appended.push mbuf offset take) (slice mbuf.data offset take) := by
  have small : take < 65536 := by
    have := mbuf.dataLen_lt
    omega
  have full := length_slice_of_le inside
  refine ⟨?_, ?_, ?_, rfl, rfl⟩
  · have grown := appended.recv.contents_pushed ⟨mbuf, offset, asU16 take⟩
    rw [asU16_of_lt small] at grown
    simpa [Appended.push, RecvQueue.pushed, InOrderSegment.bytes_eq_slice, asU16_of_lt small]
      using grown
  · simp [Appended.push, full]
  · have grown := appended.recv.bufferedBytes_pushed ⟨mbuf, offset, asU16 take⟩
    rw [asU16_of_lt small] at grown
    simpa [Appended.push, RecvQueue.pushed, asU16_of_lt small, full] using grown

/-- One link of the walk, with room left: the window that fits and the drop counter. -/
theorem pushLink_extends (appended : Appended) (link : RxMbuf) (drop : ℕ) :
    let take := min link.data.length appended.recv.freeSpace
    let pushed := if 0 < take then appended.push link 0 take else appended
    Extends appended { pushed with bufFullDrop := drop } (link.data.take take) := by
  intro take pushed
  have fits : 0 + take ≤ link.data.length := by
    simp only [take]
    omega
  by_cases positive : 0 < take
  · have extension := push_extends appended fits
    simp only [pushed, if_pos positive]
    have whole : slice link.data 0 take = link.data.take take := by
      simp [slice]
    rw [whole] at extension
    exact ⟨extension.contents, extension.delivered, extension.buffered, extension.cap,
      extension.reorder⟩
  · have none : take = 0 := by omega
    simp only [pushed, if_neg positive, none, List.take_zero]
    exact ⟨by simp, by simp, by simp, rfl, rfl⟩

/-- The chain walk appends the longest prefix of the links' bytes that fits. -/
theorem appendChain_extends (links : List RxMbuf) (appended : Appended) :
    Extends appended (appendChain links appended)
      ((links.flatMap RxMbuf.data).take appended.recv.freeSpace) := by
  induction links generalizing appended with
  | nil => exact ⟨by simp [appendChain], by simp [appendChain], by simp [appendChain], rfl, rfl⟩
  | cons link rest ih =>
      dsimp only [appendChain]
      by_cases full : appended.recv.freeSpace = 0
      · simp only [full, if_true, List.take_zero]
        exact ⟨by simp, by simp, by simp, rfl, rfl⟩
      · simp only [full, if_false]
        have first := pushLink_extends appended link
        refine (congrArg (Extends appended _) ?_).mp ((first _).trans (ih _))
        rw [(first _).freeSpace, List.flatMap_cons, List.take_append, List.length_take]
        congr 1
        · rcases Nat.le_total link.data.length appended.recv.freeSpace with short | long
          · rw [Nat.min_eq_left short, List.take_of_length_le (Nat.le_refl _),
              List.take_of_length_le short]
          · rw [Nat.min_eq_right long]
        · congr 1
          omega

/-- What an in-order segment adds to the in-order queue: nothing without a
buffer or without room for its first byte, else the prefix that fits. -/
def acceptedBytes (recv : RecvQueue) (seg : ParsedSegment) (mbufCtx : Option MbufInsertCtx) :
    List UInt8 :=
  match mbufCtx with
  | some ctx =>
      if seg.payload = [] then [] else (carriedBytes seg (some ctx)).take recv.freeSpace
  | none => []

theorem appendInOrder_extends {recv : RecvQueue} {seg : ParsedSegment}
    {mbufCtx : Option MbufInsertCtx} (backed : ∀ ctx, mbufCtx = some ctx → ctx.Backs seg.payload) :
    Extends { recv := recv } (appendInOrder recv seg mbufCtx)
      (acceptedBytes recv seg mbufCtx) := by
  cases mbufCtx with
  | none => exact Extends.refl _
  | some ctx =>
      have backs := backed ctx rfl
      dsimp only [appendInOrder, acceptedBytes]
      by_cases empty : seg.payload = []
      · simp only [empty, List.length_nil, Nat.zero_min, Nat.lt_irrefl, if_false, if_true]
        exact Extends.refl _
      · have positive : 0 < seg.payload.length := List.length_pos_iff.mpr empty
        simp only [empty, if_false, carriedBytes, chainBytes]
        by_cases room : 0 < min seg.payload.length recv.freeSpace
        · rw [if_pos room]
          have inside := add_le_of_length_slice positive (congrArg List.length backs)
          have headFits : ctx.payloadOffset + min seg.payload.length recv.freeSpace ≤
              ctx.mbuf.data.length := by omega
          have head := push_extends { recv := recv } headFits
          have headBytes : slice ctx.mbuf.data ctx.payloadOffset
              (min seg.payload.length recv.freeSpace) = seg.payload.take recv.freeSpace := by
            have whole : slice ctx.mbuf.data ctx.payloadOffset seg.payload.length = seg.payload :=
              backs
            rw [← take_slice ctx.mbuf.data (Nat.min_le_left seg.payload.length recv.freeSpace),
              whole, List.take_eq_take_iff]
            omega
          rw [headBytes] at head
          refine (congrArg (Extends _ _) ?_).mp (head.trans (appendChain_extends ctx.next _))
          rw [head.freeSpace, List.take_append, List.length_take]
          dsimp only
          congr 2
          omega
        · rw [if_neg room]
          have none : recv.freeSpace = 0 := by omega
          simp only [none, List.take_zero]
          exact Extends.refl _

end DpdkTcp
