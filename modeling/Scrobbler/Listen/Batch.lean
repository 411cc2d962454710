import Scrobbler.Listen.Basic
import Scrobbler.Text.Utf8

/-!
Batches of listens, as they are sent: a batch of listens that play now loses its timestamps, and a
batch whose written form is too long is cut in two halves.
-/

namespace Scrobbler

namespace Batch

/-- Cuts a batch at its midpoint; of an odd number, the second half gets one more. -/
def halves {α : Type} (batch : List α) : List α × List α :=
  batch.splitAt (batch.length / 2)

/-- The listens as they are sent. A track that plays now has no timestamp yet. -/
def prepare (type : ListenType) (listens : List Listen) : List Listen :=
  match type with
  | .playingNow => listens.map Listen.withoutTimestamp
  | _ => listens

/-- The written form of listens. -/
def payload (listens : List Listen) : Json := .array (listens.map Listen.toJson)

/-- The number of bytes of the written form of listens. -/
def payloadSize (listens : List Listen) : Nat := Text.Utf8.size (payload listens).render

/-- The body of a request that submits listens. -/
def body (type : ListenType) (prepared : List Listen) : Json :=
  .object [("listen_type", .text type.name), ("payload", payload prepared)]

/-- The halves of a batch are the batch again, in order. -/
theorem halves_fst_append_snd {α : Type} (batch : List α) :
    (halves batch).1 ++ (halves batch).2 = batch := by
  simp [halves, List.splitAt_eq]

/-- A batch of two or more has a shorter first half, so halving comes to an end. -/
theorem length_halves_fst_lt {α : Type} {batch : List α} (h : 2 ≤ batch.length) :
    (halves batch).1.length < batch.length := by
  simp [halves, List.splitAt_eq]
  omega

theorem length_halves_snd_lt {α : Type} {batch : List α} (h : 2 ≤ batch.length) :
    (halves batch).2.length < batch.length := by
  simp [halves, List.splitAt_eq]
  omega

end Batch

end Scrobbler
