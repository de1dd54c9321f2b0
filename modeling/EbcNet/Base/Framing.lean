import Mathlib.Algebra.Order.Ring.Nat
import Mathlib.Data.List.Induction

/-! Frames that are sent on a stream and received in chunks, where a receiver decodes
every chunk on its own. -/

namespace Framing
universe u v
variable {Byte : Type u} {Message : Type v} {decode : List Byte → Option Message}
variable {chunks : List (List Byte)} {frames : List (List Byte × Message)}

/-- What a receiver gets. A chunk that it cannot decode is lost. -/
def received (decode : List Byte → Option Message) (chunks : List (List Byte)) : List Message :=
  chunks.filterMap decode

/-- A message is not decoded from fewer bytes than its frame has. -/
def Tight (decode : List Byte → Option Message) (chunks : List (List Byte))
    (frames : List (List Byte × Message)) : Prop :=
  ∀ chunk ∈ chunks, ∀ frame ∈ frames, decode chunk = some frame.2 → frame.1.length ≤ chunk.length

private theorem Tight.tail {chunk : List Byte} (tight : Tight decode (chunk :: chunks) frames) :
    Tight decode chunks frames :=
  fun other member => tight other (List.mem_cons_of_mem _ member)

private theorem Tight.frames_tail {frame : List Byte × Message}
    (tight : Tight decode chunks (frame :: frames)) : Tight decode chunks frames :=
  fun chunk member other listed => tight chunk member other (List.mem_cons_of_mem _ listed)

/-- The first chunk is lost, or it is decoded to the first message. -/
private theorem received_cons {chunk : List Byte}
    (same : received decode (chunk :: chunks) = frames.map Prod.snd) :
    received decode chunks = frames.map Prod.snd ∨
      ∃ frame later, frames = frame :: later ∧ decode chunk = some frame.2 ∧
        received decode chunks = later.map Prod.snd := by
  unfold received at same ⊢
  cases decoded : decode chunk with
  | none =>
    rw [List.filterMap_cons_none decoded] at same
    exact Or.inl same
  | some message =>
    rw [List.filterMap_cons_some decoded] at same
    cases frames with
    | nil => simp at same
    | cons frame later =>
      obtain ⟨rfl, rest⟩ := List.cons.inj same
      exact Or.inr ⟨frame, later, rfl, rfl, rest⟩

private theorem length_le (tight : Tight decode chunks frames)
    (same : received decode chunks = frames.map Prod.snd) :
    ((frames.map Prod.fst).map List.length).sum ≤ (chunks.map List.length).sum := by
  induction chunks generalizing frames with
  | nil =>
    have empty : frames = [] := by simpa [received] using same
    simp [empty]
  | cons chunk chunks ih =>
    rcases received_cons same with lost | ⟨frame, frames, rfl, decoded, later⟩
    · have rest := ih tight.tail lost
      rw [List.map_cons, List.sum_cons]
      omega
    · have now := tight chunk List.mem_cons_self frame List.mem_cons_self decoded
      have rest := ih tight.tail.frames_tail later
      simp only [List.map_cons, List.sum_cons]
      omega

/-- A receiver that gets all messages from no more bytes than the frames have gets
each one from a chunk of the size of its frame. -/
private theorem lengths_eq (tight : Tight decode chunks frames)
    (nonempty : ∀ chunk ∈ chunks, 0 < chunk.length)
    (same : received decode chunks = frames.map Prod.snd)
    (within : (chunks.map List.length).sum ≤ ((frames.map Prod.fst).map List.length).sum) :
    chunks.map List.length = (frames.map Prod.fst).map List.length ∧
      chunks.map decode = frames.map fun frame => some frame.2 := by
  induction chunks generalizing frames with
  | nil =>
    have empty : frames = [] := by simpa [received] using same
    simp [empty]
  | cons chunk chunks ih =>
    have filled := nonempty chunk List.mem_cons_self
    rcases received_cons same with lost | ⟨frame, frames, rfl, decoded, later⟩
    · -- The lost bytes would be missing from the others.
      have rest := length_le tight.tail lost
      rw [List.map_cons, List.sum_cons] at within
      omega
    · have now := tight chunk List.mem_cons_self frame List.mem_cons_self decoded
      have rest := length_le tight.tail.frames_tail later
      simp only [List.map_cons, List.sum_cons] at within
      obtain ⟨lengths, decodes⟩ := ih tight.tail.frames_tail
        (fun other member => nonempty other (List.mem_cons_of_mem _ member)) later (by omega)
      have length : chunk.length = frame.1.length := by omega
      simp [lengths, decodes, decoded, length]

/-- A receiver that gets just the messages that were sent was handed one frame at a
time, and decoded every frame. -/
theorem framed_of_received (tight : Tight decode chunks frames)
    (nonempty : ∀ chunk ∈ chunks, 0 < chunk.length)
    (stream : chunks.flatten = (frames.map Prod.fst).flatten)
    (same : received decode chunks = frames.map Prod.snd) :
    chunks = frames.map Prod.fst ∧ ∀ frame ∈ frames, decode frame.1 = some frame.2 := by
  have within := congrArg List.length stream
  rw [List.length_flatten, List.length_flatten] at within
  obtain ⟨lengths, decodes⟩ := lengths_eq tight nonempty same (Nat.le_of_eq within)
  have framed := List.eq_iff_flatten_eq.mpr ⟨stream, lengths⟩
  refine ⟨framed, ?_⟩
  rw [framed, List.map_map] at decodes
  exact List.map_inj_left.mp decodes

theorem received_frames (decodes : ∀ frame ∈ frames, decode frame.1 = some frame.2) :
    received decode (frames.map Prod.fst) = frames.map Prod.snd := by
  induction frames with
  | nil => rfl
  | cons frame frames ih =>
    have now := decodes frame List.mem_cons_self
    have later := ih fun other member => decodes other (List.mem_cons_of_mem _ member)
    rw [received] at later
    rw [received, List.map_cons, List.filterMap_cons_some now, later, List.map_cons]

end Framing
