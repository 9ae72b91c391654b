import SqlSession.Proofs.Wire.Frame
/-!
# Streams of frames

Bytes arrive in chunks.  Each chunk is appended to a buffer, and the frames that are complete are
taken off.  What comes of it depends on the bytes alone, not on where they were cut: they are the
frames of the payloads, then bytes at whose front decoding stops (`Spells`).

    drain bytes = d                            ↔  Spells bytes d            (drain_eq_iff)
    drain (buffer ++ chunk)                    =  drain, then go on from what is left
                                                                            (drain_append)
    what comes of chunks, fed one by one       =  what comes of them in one piece
                                                                            (total_feedAll)
    the frames of payloads that fit            →  the payloads, and nothing is left
                                                                            (feed_of_encoded)
-/

namespace SqlSession.Frame

/-! ## What draining finds -/

/-- No frame can be taken off a buffer: none is complete, or a length is negative.  The buffer comes
back as it is. -/
def Stops (buffer : Bytes) : Option WireError → Prop
  | none => decode buffer = (.ok none, buffer)
  | some e => decode buffer = (.error e, buffer)

/-- Bytes are the frames of payloads, then bytes at which decoding stops. -/
structure Spells (bytes : Bytes) (d : Drained) : Prop where
  fit : ∀ payload ∈ d.payloads, payload.length < 2147483648
  bytes_eq : bytes = (d.payloads.map framed).flatten ++ d.left
  stops : Stops d.left d.stopped

/-- First one part of a stream, then another. -/
def Drained.then (d e : Drained) : Drained := { e with payloads := d.payloads ++ e.payloads }

/-- What came of some chunks altogether: every payload, and what the last chunk ended with. -/
def total (ds : List Drained) : Drained where
  payloads := ds.flatMap (·.payloads)
  stopped := ds.getLast?.bind (·.stopped)
  left := (ds.getLast?.map (·.left)).getD []

/-! ## Draining -/

theorem drain_of_stops {buffer : Bytes} {stopped : Option WireError} (h : Stops buffer stopped) :
    drain buffer = ⟨[], stopped, buffer⟩ := by
  rw [drain, drainOnto]
  cases stopped with
  | none =>
    have hdecode : decode buffer = (.ok none, buffer) := h
    split <;> simp_all
  | some e =>
    have hdecode : decode buffer = (.error e, buffer) := h
    split <;> simp_all

theorem drain_framed {payload : Bytes} (rest : Bytes) (h : payload.length < 2147483648) :
    drain (framed payload ++ rest) =
      { drain rest with payloads := payload :: (drain rest).payloads } := by
  have hfront : AtFront (framed payload ++ rest) payload rest := (atFront_iff _ _ _).2 ⟨h, rfl⟩
  exact drain_of_decode ((decode_eq_some_iff _ _ _).2 hfront)

/-- Frames at the front are taken off, whatever follows them. -/
theorem drain_frames (payloads : List Bytes) (rest : Bytes)
    (h : ∀ payload ∈ payloads, payload.length < 2147483648) :
    drain ((payloads.map framed).flatten ++ rest) =
      { drain rest with payloads := payloads ++ (drain rest).payloads } := by
  induction payloads with
  | nil => rfl
  | cons payload payloads ih =>
    have hfirst := h payload List.mem_cons_self
    have hothers := ih fun p hp => h p (List.mem_cons_of_mem _ hp)
    rw [List.map_cons, List.flatten_cons, List.append_assoc, drain_framed _ hfirst, hothers]
    rfl

/-- Draining finds the frames that the bytes spell. -/
theorem spells_drain (buffer : Bytes) : Spells buffer (drain buffer) := by
  -- a frame that is taken off leaves fewer bytes
  induction hn : buffer.length using Nat.strongRecOn generalizing buffer with
  | ind n ih =>
    subst hn
    rcases hdecode : decode buffer with ⟨e | _ | payload, left⟩
    · obtain rfl := unchanged_of_error hdecode
      have hstops : Stops left (some e) := hdecode
      rw [drain_of_stops hstops]
      exact ⟨by simp, rfl, hstops⟩
    · obtain rfl := unchanged_of_none hdecode
      have hstops : Stops left none := hdecode
      rw [drain_of_stops hstops]
      exact ⟨by simp, rfl, hstops⟩
    · obtain ⟨hfit, hbytes⟩ :=
        (atFront_iff _ _ _).1 ((decode_eq_some_iff _ _ _).1 hdecode)
      have hleft := ih left.length (decode_left_lt hdecode) left rfl
      rw [drain_of_decode hdecode]
      refine ⟨?_, ?_, hleft.stops⟩
      · intro p hp
        rcases List.mem_cons.1 hp with rfl | hp
        · exact hfit
        · exact hleft.fit p hp
      · calc buffer
            = framed payload ++ left := hbytes
          _ = framed payload ++
                (((drain left).payloads.map framed).flatten ++ (drain left).left) :=
              congrArg (framed payload ++ ·) hleft.bytes_eq
          _ = _ := by rw [← List.append_assoc]; rfl

/-- **Draining.**  Bytes spell one list of payloads and one rest, and draining finds these. -/
theorem drain_eq_iff (buffer : Bytes) (d : Drained) : drain buffer = d ↔ Spells buffer d := by
  constructor
  · rintro rfl
    exact spells_drain buffer
  · rintro ⟨hfit, rfl, hstops⟩
    rw [drain_frames _ _ hfit, drain_of_stops hstops, List.append_nil]

/-! ## Chunks -/

/-- More bytes change nothing about the frames found before. -/
theorem drain_append (buffer chunk : Bytes) :
    drain (buffer ++ chunk) = (drain buffer).then (drain ((drain buffer).left ++ chunk)) := by
  have hspelled := spells_drain buffer
  calc drain (buffer ++ chunk)
      = drain (((drain buffer).payloads.map framed).flatten ++ ((drain buffer).left ++ chunk)) := by
        rw [← List.append_assoc, ← hspelled.bytes_eq]
    _ = (drain buffer).then (drain ((drain buffer).left ++ chunk)) :=
        drain_frames _ _ hspelled.fit

theorem total_cons (d : Drained) {ds : List Drained} (h : ds ≠ []) :
    total (d :: ds) = d.then (total ds) := by
  obtain ⟨e, es, rfl⟩ := List.exists_cons_of_ne_nil h
  simp [total, Drained.then]

/-- **Chunks.**  Where the bytes were cut does not show. -/
theorem total_feedAll (buffer chunk : Bytes) (chunks : List Bytes) :
    total (feedAll buffer (chunk :: chunks)) = drain (buffer ++ chunk ++ chunks.flatten) := by
  induction chunks generalizing buffer chunk with
  | nil => simp [total, feed]
  | cons next chunks ih =>
    -- the later chunks are fed to what the first one left, so `ih` speaks of that buffer
    have hmore : feedAll (feed buffer chunk).left (next :: chunks) ≠ [] := by simp
    rw [feedAll_cons, total_cons _ hmore, ih, feed, drain_append (buffer ++ chunk),
      List.flatten_cons, List.append_assoc]

theorem total_feedAll_nil (chunks : List Bytes) :
    total (feedAll [] chunks) = feed [] chunks.flatten := by
  cases chunks with
  | nil =>
    have hstops : Stops [] none := rfl
    exact (drain_of_stops hstops).symm
  | cons chunk chunks => exact total_feedAll [] chunk chunks

/-! ## Frames that were written -/

/-- The frames of payloads that fit are read back, and nothing is left. -/
theorem feed_of_encoded {payloads : List Bytes}
    (h : ∀ payload ∈ payloads, payload.length ≤ maxPayload) :
    ∃ frames, payloads.mapM encode = .ok frames ∧ feed [] frames.flatten = ⟨payloads, none, []⟩ := by
  refine ⟨payloads.map framed, mapM_encode h, (drain_eq_iff _ _).2 ⟨?_, ?_, rfl⟩⟩
  · intro payload hp
    have hle := h payload hp
    have hmax : maxPayload = 2147483643 := rfl
    omega
  · exact (List.append_nil _).symm

/-- **Streams of frames.**  Chunks fed one by one give what they give in one piece: the same
payloads, the same rest and the same end.  No byte is lost, and a buffer at which decoding stops is
left as it is.  The frames of payloads that fit are read back, and only a payload that does not fit
is refused. -/
theorem stream_confluent :
    (∀ chunks : List Bytes,
      let whole := feed [] chunks.flatten
      total (feedAll [] chunks) = whole ∧
      chunks.flatten =
        (whole.payloads.map fun payload => Bytes.littleEndian 4 payload.length ++ payload).flatten ++
          whole.left ∧
      Stops whole.left whole.stopped ∧
      ∀ e ∈ whole.stopped, ∃ length : Int32, length.toInt < 0 ∧ e = .negativeLength length) ∧
    (∀ buffer, (∃ payload, (decode buffer).1 = .ok (some payload)) ∨ (decode buffer).2 = buffer) ∧
    (∀ buffer stopped, Stops buffer stopped → feed buffer [] = ⟨[], stopped, buffer⟩) ∧
    (∀ payloads : List Bytes, (∀ payload ∈ payloads, payload.length ≤ maxPayload) →
      ∃ frames, payloads.mapM encode = .ok frames ∧
        feed [] frames.flatten = ⟨payloads, none, []⟩) ∧
    ∀ (payload : Bytes) (e : WireError), encode payload = .error e ↔
      maxPayload < payload.length ∧ e = .frameTooLarge payload.length maxPayload := by
  refine ⟨?_, ?_, ?_, fun payloads h => feed_of_encoded h, encode_eq_error_iff⟩
  · intro chunks whole
    have hspelled : Spells chunks.flatten whole := spells_drain chunks.flatten
    refine ⟨total_feedAll_nil chunks, hspelled.bytes_eq, hspelled.stops, ?_⟩
    intro e he
    have hstopped : whole.stopped = some e := he
    have hstops := hspelled.stops
    rw [hstopped] at hstops
    exact negative_of_decode hstops
  · intro buffer
    by_cases htaken : ∃ payload, (decode buffer).1 = .ok (some payload)
    · exact .inl htaken
    · exact .inr (decode_unchanged fun payload h => htaken ⟨payload, h⟩)
  · intro buffer stopped hstops
    rw [feed, List.append_nil, drain_of_stops hstops]

end SqlSession.Frame
