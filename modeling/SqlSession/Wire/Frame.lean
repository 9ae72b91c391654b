import SqlSession.Bytes
import SqlSession.Wire.Error
/-!
# Frames

A message travels as a frame: four bytes with its length, a signed little-endian number, then the
message.

* `Frame.encode` frames a payload, unless it is longer than `maxPayload`.
* `Frame.decode` takes the first frame off a buffer and gives the buffer back; an incomplete frame
  is left where it is.
* `Frame.drain` takes off frames until none is complete or a length is negative.
* `Frame.feed` appends bytes to a buffer and drains it.
-/

namespace SqlSession

/-- The size of a frame header. -/
def FrameHeader.size : Nat := 4

/-- The longest payload: a whole frame stays below 2 GiB. -/
def Frame.maxPayload : Nat := 0x7FFFFFFF - FrameHeader.size

/-- The header of a frame. -/
structure FrameHeader where
  length : Int32
  deriving DecidableEq, Repr

namespace FrameHeader

/-- The header of a payload with `length` bytes. -/
def forPayload (length : Nat) : Except WireError FrameHeader :=
  if length > Frame.maxPayload then .error (.frameTooLarge length Frame.maxPayload)
  else .ok ⟨Int32.ofNat length⟩

/-- The four bytes of a header. -/
def encode (h : FrameHeader) : Bytes := Bytes.littleEndian 4 h.length.toUInt32.toNat

/-- Reads a header from its bytes. -/
def decode (bytes : Bytes) : FrameHeader := ⟨(UInt32.ofNat (Bytes.ofLittleEndian bytes)).toInt32⟩

/-- The length of the payload that follows. -/
def payloadLength (h : FrameHeader) : Except WireError Nat :=
  if h.length.toInt < 0 then .error (.negativeLength h.length) else .ok h.length.toInt.toNat

end FrameHeader

namespace Frame

/-- Frames a payload. -/
def encode (payload : Bytes) : Except WireError Bytes :=
  (FrameHeader.forPayload payload.length).map fun h => h.encode ++ payload

/-- Takes the first frame off a buffer: its payload, or nothing while it is incomplete.  The buffer
comes back with it, which only a frame that is taken off makes shorter. -/
def decode (buffer : Bytes) : Except WireError (Option Bytes) × Bytes :=
  let header := buffer.take FrameHeader.size
  if header.length < FrameHeader.size then (.ok none, buffer)
  else
    match (FrameHeader.decode header).payloadLength with
    | .error e => (.error e, buffer)
    | .ok n =>
      let body := buffer.drop FrameHeader.size
      let payload := body.take n
      if payload.length < n then (.ok none, buffer) else (.ok (some payload), body.drop n)

/-- What taking off frames leaves behind. -/
structure Drained where
  /-- The payloads, in order. -/
  payloads : List Bytes
  /-- The error that stopped the reading, if any. -/
  stopped : Option WireError
  /-- The bytes that belong to no complete frame. -/
  left : Bytes
  deriving DecidableEq, Repr

theorem decode_left_lt {buffer payload left : Bytes}
    (h : decode buffer = (.ok (some payload), left)) :
    left.length < buffer.length := by
  simp only [decode] at h
  split at h
  · simp at h
  · rename_i hlen
    split at h
    · simp at h
    · split at h
      · simp at h
      · rw [← (Prod.mk.inj h).2]
        simp only [List.length_take, List.length_drop, FrameHeader.size] at *
        omega

/-- Takes frames off a buffer until none is complete or a length is negative; the payloads come
behind those taken before, which are given the last one first. -/
def drainOnto (taken : List Bytes) (buffer : Bytes) : Drained :=
  match _h : decode buffer with
  | (.ok (some payload), left) => drainOnto (payload :: taken) left
  | (.ok none, left) => ⟨taken.reverse, none, left⟩
  | (.error e, left) => ⟨taken.reverse, some e, left⟩
termination_by buffer.length
decreasing_by exact decode_left_lt ‹_›

/-- Takes frames off a buffer until none is complete or a length is negative. -/
def drain (buffer : Bytes) : Drained := drainOnto [] buffer

/-- Appends bytes to a buffer and takes off the frames that are complete. -/
def feed (buffer chunk : Bytes) : Drained := drain (buffer ++ chunk)

/-- Feeds chunks one by one; what came of each follows what came before, which is given the last one
first. -/
def feedOnto (done : List Drained) (buffer : Bytes) : List Bytes → List Drained
  | [] => done.reverse
  | chunk :: chunks =>
    let d := feed buffer chunk
    feedOnto (d :: done) d.left chunks

/-- Feeds chunks one by one, each to what the one before left. -/
def feedAll (buffer : Bytes) (chunks : List Bytes) : List Drained := feedOnto [] buffer chunks

/-! ## Lemmas -/

/-- Payloads taken before stay in front. -/
theorem drainOnto_eq (taken : List Bytes) (buffer : Bytes) :
    drainOnto taken buffer =
      { drain buffer with payloads := taken.reverse ++ (drain buffer).payloads } := by
  rw [drain, drainOnto, drainOnto]
  split
  · rename_i payload left h
    rw [drainOnto_eq (payload :: taken) left, drainOnto_eq [payload] left]
    simp
  · simp
  · simp
termination_by buffer.length
decreasing_by all_goals exact decode_left_lt ‹_›

/-- What comes of draining is the first frame, then what comes of draining the rest. -/
theorem drain_of_decode {buffer payload left : Bytes}
    (h : decode buffer = (.ok (some payload), left)) :
    drain buffer = { drain left with payloads := payload :: (drain left).payloads } := by
  rw [drain, drainOnto]
  split
  · simp_all [drainOnto_eq [payload] left]
  · simp_all
  · simp_all

theorem feedOnto_eq (done : List Drained) (buffer : Bytes) (chunks : List Bytes) :
    feedOnto done buffer chunks = done.reverse ++ feedAll buffer chunks := by
  unfold feedAll
  induction chunks generalizing done buffer with
  | nil => simp [feedOnto]
  | cons chunk chunks ih =>
    rw [feedOnto, feedOnto, ih, ih [_]]
    simp

@[simp] theorem feedAll_nil (buffer : Bytes) : feedAll buffer [] = [] := rfl

@[simp] theorem feedAll_cons (buffer chunk : Bytes) (chunks : List Bytes) :
    feedAll buffer (chunk :: chunks) =
      feed buffer chunk :: feedAll (feed buffer chunk).left chunks := by
  rw [feedAll, feedOnto, feedOnto_eq]
  rfl

end Frame

end SqlSession
