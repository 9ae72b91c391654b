import SqlSession.Proofs.HandleTable.Report
import SqlSession.Proofs.Session.Refusal
/-!
# Buffers for values

A caller asks for a value and gives a buffer of `n` bytes for it.  What is written depends on the
kind of the value:

    none                      →  error, nothing is written
    text of l bytes, n = 0    →  l is reported, nothing is written
    text of l bytes, n > 0    →  l is reported, min l (n - 1) bytes and a NUL are written
    integer of w bytes        →  w bytes are written if they fit, else error, nothing is written

A text is cut exactly if `0 < n ≤ l`.  The bytes of the buffer behind those that are written stay,
and so does all of a session but its log.

* `Bytes.Overwrites`: bytes are at the front of a buffer, the bytes behind them are the old ones.
* `Info.Fills`: the table, and `Info.write_fills` that it describes what is written.
* `Session.buffers_filled`: the same through a session, in every state, for values and attributes.
-/

namespace SqlSession

/-! ## Overwriting -/

/-- A buffer after bytes are written at its front: they are there, and those behind them stay. -/
structure Bytes.Overwrites (bytes buffer after : Bytes) : Prop where
  length : after.length = buffer.length
  front : ∀ i < bytes.length, after[i]? = bytes[i]?
  rest : ∀ i, bytes.length ≤ i → after[i]? = buffer[i]?

theorem Bytes.overwrites_append {bytes buffer : Bytes} (h : bytes.length ≤ buffer.length) :
    bytes.Overwrites buffer (bytes ++ buffer.drop bytes.length) where
  length := by
    rw [List.length_append, List.length_drop]
    omega
  front i hi := List.getElem?_append_left hi
  rest i hi := by
    rw [List.getElem?_append_right hi, List.getElem?_drop, Nat.add_sub_of_le hi]

/-- What fills a buffer is the buffer then. -/
theorem Bytes.Overwrites.eq_of_length {bytes buffer after : Bytes}
    (h : bytes.Overwrites buffer after) (hlength : bytes.length = buffer.length) :
    after = bytes := by
  refine List.ext_getElem? fun i => ?_
  rcases Nat.lt_or_ge i bytes.length with hi | hi
  · exact h.front i hi
  · have hafter : after.length ≤ i := by
      rw [h.length, ← hlength]
      exact hi
    rw [List.getElem?_eq_none hafter, List.getElem?_eq_none hi]

/-! ## Values -/

namespace Info

/-- A text is reported with its length.  An empty buffer stays as it is; any other holds what fits
in front of a NUL, and the NUL. -/
structure FillsText (text buffer : Bytes) (r : Except DriverError InfoWritten × Bytes) : Prop where
  reported : ∃ w, r.1 = .ok w ∧ w.length = text.length ∧
    (w.truncated = true ↔ 0 < buffer.length ∧ buffer.length ≤ text.length)
  asked : buffer.length = 0 → r.2 = buffer
  written : 0 < buffer.length →
    Bytes.Overwrites (text.take (min text.length (buffer.length - 1)) ++ [0]) buffer r.2

/-- An integer is refused exactly if the buffer is too small, which stays as it is then; else it is
written whole. -/
structure FillsInteger (bytes buffer : Bytes) (r : Except DriverError InfoWritten × Bytes) :
    Prop where
  error_iff : (∃ e, r.1 = .error e) ↔ buffer.length < bytes.length
  refused : ∀ e, r.1 = .error e → r.2 = buffer
  written : ∀ w, r.1 = .ok w →
    w = { length := bytes.length, truncated := false } ∧ bytes.Overwrites buffer r.2

/-- What writing a value into a buffer comes to, and the buffer then. -/
def Fills : Option InfoValue → Bytes → Except DriverError InfoWritten × Bytes → Prop
  | none, buffer, r => (∃ e, r.1 = .error e) ∧ r.2 = buffer
  | some (.text s), buffer, r => FillsText (Bytes.utf8 s) buffer r
  | some (.word n), buffer, r => FillsInteger (Bytes.littleEndian 2 n.toNat) buffer r
  | some (.double n), buffer, r => FillsInteger (Bytes.littleEndian 4 n.toNat) buffer r

theorem writeText_fills (text buffer : Bytes) :
    FillsText text buffer (.ok (writeText text buffer).1, (writeText text buffer).2) := by
  unfold writeText
  rcases hroom : buffer.length with _ | room
  · exact ⟨⟨_, rfl, rfl, by simp [hroom]⟩, fun _ => rfl, fun h => absurd h (by omega)⟩
  · refine ⟨⟨_, rfl, rfl, ?_⟩, fun h => absurd h (by omega), fun _ => ?_⟩
    · dsimp only
      rw [decide_eq_true_iff]
      omega
    · have hlength : (text.take (min text.length room) ++ [0]).length =
          min text.length room + 1 := by
        rw [List.length_append, List.length_take, List.length_singleton]
        omega
      have hfits : (text.take (min text.length room) ++ [0]).length ≤ buffer.length := by omega
      have hover := Bytes.overwrites_append hfits
      rw [hlength, List.append_assoc] at hover
      rw [hroom]
      exact hover

theorem writeInteger_fills (bytes buffer : Bytes) :
    FillsInteger bytes buffer (writeInteger bytes buffer) := by
  unfold writeInteger
  by_cases h : buffer.length < bytes.length
  · rw [if_pos h]
    exact ⟨by simp [h], fun _ _ => rfl, fun w hw => by simp at hw⟩
  · rw [if_neg h]
    refine ⟨by simp [h], fun e he => by simp at he, fun w hw => ⟨(Except.ok.inj hw).symm, ?_⟩⟩
    exact Bytes.overwrites_append (Nat.le_of_not_lt h)

theorem write_fills (c : Configuration) (v : Version) (number : UInt16) (buffer : Bytes) :
    Fills (value? c v number) buffer (write c v number buffer) := by
  unfold write
  rcases value? c v number with _ | ⟨s⟩ | n | n
  · exact ⟨⟨_, rfl⟩, rfl⟩
  · exact writeText_fills (Bytes.utf8 s) buffer
  · exact writeInteger_fills _ buffer
  · exact writeInteger_fills _ buffer

variable {value? : Option InfoValue} {buffer : Bytes} {r : Except DriverError InfoWritten × Bytes}

/-- Whatever the value is, an error leaves the buffer as it was. -/
theorem Fills.unchanged (h : Fills value? buffer r) {e : DriverError} (he : r.1 = .error e) :
    r.2 = buffer := by
  rcases value? with _ | ⟨s⟩ | n | n
  · exact h.2
  · obtain ⟨w, hw, -⟩ := h.reported
    rw [he] at hw
    simp at hw
  · exact h.refused e he
  · exact h.refused e he

/-- An empty buffer asks for the length of a text. -/
theorem FillsText.length_asked {text : Bytes} (h : FillsText text [] r) :
    r = (.ok { length := text.length, truncated := false }, []) := by
  obtain ⟨⟨length, truncated⟩, hw, hlength, htruncated⟩ := h.reported
  dsimp only at hlength htruncated
  have hwhole : truncated = false := by
    rw [← Bool.not_eq_true, htruncated]
    simp
  rw [hlength, hwhole] at hw
  exact Prod.ext hw (h.asked rfl)

/-- A buffer with room for a text and its NUL holds both, and nothing is cut. -/
theorem FillsText.whole {text : Bytes} (h : FillsText text buffer r)
    (hlength : buffer.length = text.length + 1) :
    r = (.ok { length := text.length, truncated := false }, text ++ [0]) := by
  obtain ⟨⟨length, truncated⟩, hw, hreported, htruncated⟩ := h.reported
  dsimp only at hreported htruncated
  have hwhole : truncated = false := by
    rw [← Bool.not_eq_true, htruncated]
    omega
  have hover := h.written (by omega)
  rw [hlength, Nat.add_sub_cancel, Nat.min_self, List.take_length] at hover
  rw [hreported, hwhole] at hw
  exact Prod.ext hw (hover.eq_of_length (by simp [hlength]))

end Info

/-! ## Values of a session -/

namespace Session

variable {τ : Type}

/-- The value a session has for a number: of its configuration, and of the version agreed on or else
of its codec. -/
def infoValue? (s : Session τ) (number : UInt16) : Option InfoValue :=
  Info.value? s.configuration (s.negotiated.getD s.codec.version) number

/-- What writing that value into a buffer comes to, and the buffer then. -/
def writeInfo (s : Session τ) (number : UInt16) (buffer : Bytes) :
    Except DriverError InfoWritten × Bytes :=
  Info.write s.configuration (s.negotiated.getD s.codec.version) number buffer

/-- A call for a value answers with what writing it comes to: the buffer is filled, the length or
the error is reported, with a warning exactly if a text is cut, and only the log changes. -/
structure Answers (s : Session τ) (number : UInt16) (buffer : Bytes)
    (r : (CallResult Nat × Bytes) × Session τ) : Prop where
  fills : Info.Fills (s.infoValue? number) buffer ((s.writeInfo number buffer).1, r.1.2)
  reports : r.1.1.Faithful ((s.writeInfo number buffer).1.map (·.length))
    (∃ w, (s.writeInfo number buffer).1 = .ok w ∧ w.truncated = true)
  unchanged : r.1.1.status = .error → r.1.2 = buffer
  untouched : Untouched s r.2

theorem untouched_call {α : Type} (s : Session τ)
    (op : Session τ → Except DriverError α × Session τ) (h : ∀ s, Untouched s (op s).2) :
    Untouched s (s.call op).2 := by
  obtain ⟨log, hlog⟩ := h { s with diagnostics := s.diagnostics.clear }
  refine ⟨((op { s with diagnostics := s.diagnostics.clear }).2.diagnostics.complete
    (op { s with diagnostics := s.diagnostics.clear }).1).2, ?_⟩
  unfold call
  dsimp only
  rw [hlog]

theorem untouched_getInfo (s : Session τ) (number : UInt16) (buffer : Bytes) :
    Untouched s (s.getInfo number buffer).2 := by
  unfold getInfo
  dsimp only
  refine s.untouched_call _ fun s' => ?_
  rcases (Info.write s.configuration (s.negotiated.getD s.codec.version) number buffer).1 with e | w
  · exact ⟨s'.diagnostics, rfl⟩
  · dsimp only
    split
    · exact ⟨_, rfl⟩
    · exact ⟨s'.diagnostics, rfl⟩

theorem writeInfo_fills (s : Session τ) (number : UInt16) (buffer : Bytes) :
    Info.Fills (s.infoValue? number) buffer (s.writeInfo number buffer) :=
  Info.write_fills s.configuration (s.negotiated.getD s.codec.version) number buffer

theorem getInfo_answers [Transport τ] (s : Session τ) (number : UInt16) (buffer : Bytes) :
    s.Answers number buffer (s.getInfo number buffer) := by
  obtain ⟨hreports, -⟩ := s.getInfo_reports number buffer
  have hcuts := Info.truncated_iff s.configuration (s.negotiated.getD s.codec.version) number buffer
  rw [Call.Cuts, ← hcuts] at hreports
  have hfills := s.writeInfo_fills number buffer
  refine ⟨hfills, hreports, fun herror => ?_, s.untouched_getInfo number buffer⟩
  cases hwrite : (s.writeInfo number buffer).1 with
  | error e => exact hfills.unchanged hwrite
  | ok w =>
    have houtcome : (Call.getInfo number buffer).outcome s = .ok w.length :=
      congrArg (Except.map fun w : InfoWritten => w.length) hwrite
    have hvalue := (hreports.done_iff w.length).2 houtcome
    simp [hreports.error_iff.1 herror] at hvalue

/-- A value that is written without a cut is reported without a warning. -/
theorem getInfo_of_write (s : Session τ) {number : UInt16} {buffer after : Bytes} {length : Nat}
    (h : s.writeInfo number buffer = (.ok { length, truncated := false }, after)) :
    (s.getInfo number buffer).1 = (.ofOutcome (.ok length), after) := by
  unfold writeInfo at h
  unfold getInfo
  dsimp only
  rw [h]
  dsimp only
  rw [call_eq _ _ rfl]

/-- What there is to ask for stays the same as long as only the log changes. -/
theorem Untouched.infoValue?_eq {s s' : Session τ} (h : Untouched s s') (number : UInt16) :
    s'.infoValue? number = s.infoValue? number := by
  obtain ⟨log, rfl⟩ := h
  rfl

/-- **Twice.**  A text is asked for with an empty buffer, and then with one that is longer by one
than what was reported: it is there, with its NUL. -/
theorem getInfo_twice (s : Session τ) {number : UInt16} {text : String}
    (hvalue : s.infoValue? number = some (.text text)) :
    ∃ length, (s.getInfo number []).1 = (.ofOutcome (.ok length), []) ∧
      ∀ buffer : Bytes, buffer.length = length + 1 →
        ((s.getInfo number []).2.getInfo number buffer).1 =
          (.ofOutcome (.ok length), Bytes.utf8 text ++ [0]) := by
  have hfills {s : Session τ} (hvalue : s.infoValue? number = some (.text text)) (buffer : Bytes) :
      Info.FillsText (Bytes.utf8 text) buffer (s.writeInfo number buffer) := by
    have h := s.writeInfo_fills number buffer
    rw [hvalue] at h
    exact h
  refine ⟨_, s.getInfo_of_write (hfills hvalue []).length_asked, fun buffer hlength => ?_⟩
  -- the first call changes the log only, so the second one finds the same text
  have hthen := ((s.untouched_getInfo number []).infoValue?_eq number).trans hvalue
  exact getInfo_of_write _ ((hfills hthen buffer).whole hlength)

/-! ## Attributes of a session -/

variable [Transport τ]

theorem length_deadBytes (s : Session τ) : s.deadBytes.length = 4 :=
  Bytes.length_littleEndian _ _

/-- A call for an attribute fails unless it is for the one there is and four bytes fit.  It writes
four bytes or none, and only the log changes. -/
structure ReadsAttribute (s : Session τ) (id : Int32) (buffer : Option Bytes)
    (r : (CallResult Nat × Bytes) × Session τ) : Prop where
  error_iff : r.1.1.status = .error ↔
    ¬ (id = connectionDead ∧ ∃ given, buffer = some given ∧ 4 ≤ given.length)
  unchanged : r.1.1.status = .error → r.1.2 = buffer.getD []
  written : ∀ length, r.1.1.value = some length → length = 4 ∧ s.deadBytes.length = 4 ∧
    ∃ given, buffer = some given ∧ s.deadBytes.Overwrites given r.1.2
  untouched : Untouched s r.2

/-- The attribute there is is written into a buffer with room for it. -/
theorem readAttribute_granted (s : Session τ) {buffer : Bytes} (h : 4 ≤ buffer.length) :
    s.readAttribute connectionDead (some buffer) =
      (.ok s.deadBytes.length, s.deadBytes ++ buffer.drop s.deadBytes.length) := by
  have hroom : ¬ buffer.length < s.deadBytes.length := by
    rw [s.length_deadBytes]
    omega
  simp only [readAttribute, if_true, if_neg hroom]

/-- Any other call is refused. -/
theorem readAttribute_refused (s : Session τ) {id : Int32} {buffer : Option Bytes}
    (h : ¬ (id = connectionDead ∧ ∃ given, buffer = some given ∧ 4 ≤ given.length)) :
    ∃ e, s.readAttribute id buffer = (.error e, buffer.getD []) := by
  cases buffer with
  | none => exact ⟨_, rfl⟩
  | some given =>
    by_cases hid : id = connectionDead
    · have hsmall : given.length < s.deadBytes.length := by
        rw [s.length_deadBytes]
        exact Nat.lt_of_not_le fun hroom => h ⟨hid, given, rfl, hroom⟩
      simp [readAttribute, hid, hsmall]
    · simp [readAttribute, hid]

theorem getAttribute_eq (s : Session τ) (id : Int32) (buffer : Option Bytes) :
    ∃ log, s.getAttribute id buffer =
      ((.ofOutcome (s.readAttribute id buffer).1, (s.readAttribute id buffer).2),
        { s with diagnostics := log }) := by
  unfold getAttribute
  dsimp only
  rw [call_eq _ _ rfl]
  exact ⟨_, rfl⟩

theorem getAttribute_reads (s : Session τ) (id : Int32) (buffer : Option Bytes) :
    s.ReadsAttribute id buffer (s.getAttribute id buffer) := by
  obtain ⟨log, hcall⟩ := s.getAttribute_eq id buffer
  rw [hcall]
  by_cases hgranted : id = connectionDead ∧ ∃ given, buffer = some given ∧ 4 ≤ given.length
  · obtain ⟨rfl, given, rfl, hroom⟩ := hgranted
    rw [s.readAttribute_granted hroom]
    refine ⟨by simp [CallResult.ofOutcome, hroom], fun h => by simp [CallResult.ofOutcome] at h,
      fun length hlength => ?_, _, rfl⟩
    obtain rfl := Option.some.inj hlength
    refine ⟨s.length_deadBytes, s.length_deadBytes, given, rfl, Bytes.overwrites_append ?_⟩
    rw [s.length_deadBytes]
    exact hroom
  · obtain ⟨e, hread⟩ := s.readAttribute_refused hgranted
    rw [hread]
    exact ⟨by simp [CallResult.ofOutcome, hgranted], fun _ => rfl,
      fun length hlength => by simp [CallResult.ofOutcome] at hlength, _, rfl⟩

/-! ## All calls with a buffer -/

/-- **Buffers.**  A value is written as the table has it, and an error leaves the whole buffer as it
was.  So it is through a session, whatever its state, with the length that is reported, a warning
exactly for a text that is cut, and nothing changed but the log.  A text that is asked for twice is
there whole.  An attribute is written into four bytes, or nothing is. -/
theorem buffers_filled :
    (∀ (c : Configuration) (v : Version) (number : UInt16) (buffer : Bytes),
      Info.Fills (Info.value? c v number) buffer (Info.write c v number buffer) ∧
        ∀ e, (Info.write c v number buffer).1 = .error e →
          (Info.write c v number buffer).2 = buffer) ∧
    (∀ (s : Session τ) (number : UInt16) (buffer : Bytes),
      s.Answers number buffer (s.getInfo number buffer)) ∧
    (∀ (s : Session τ) (number : UInt16) (text : String),
      s.infoValue? number = some (.text text) →
        ∃ length, (s.getInfo number []).1 = (.ofOutcome (.ok length), []) ∧
          ∀ buffer : Bytes, buffer.length = length + 1 →
            ((s.getInfo number []).2.getInfo number buffer).1 =
              (.ofOutcome (.ok length), Bytes.utf8 text ++ [0])) ∧
    ∀ (s : Session τ) (id : Int32) (buffer : Option Bytes),
      s.ReadsAttribute id buffer (s.getAttribute id buffer) := by
  refine ⟨fun c v number buffer => ?_, getInfo_answers, fun s number text => s.getInfo_twice,
    getAttribute_reads⟩
  have hfills := Info.write_fills c v number buffer
  exact ⟨hfills, fun e he => hfills.unchanged he⟩

/-- A value there is none of, and a schema that is asked for twice. -/
theorem buffers_filled_schema :
    let s : Session MemoryTransport :=
      { handle := ⟨1⟩, transport := {}, configuration := { schema := "SALES" } }
    (Info.write s.configuration .v2_1_0 3 [7]).1 = .error (.notImplemented "Not implemented.") ∧
      (Info.write s.configuration .v2_1_0 3 [7]).2 = [7] ∧
      s.infoValue? 16 = some (.text "SALES") ∧
      ((s.getInfo 16 []).2.getInfo 16 [7, 7, 7, 7, 7, 7]).1 =
        (.ofOutcome (.ok 5), [83, 65, 76, 69, 83, 0]) := by
  intro s
  obtain ⟨hwrite, -, htwice, -⟩ := buffers_filled (τ := MemoryTransport)
  have hvalue : s.infoValue? 16 = some (.text "SALES") := by decide +kernel
  obtain ⟨length, hasked, hthen⟩ := htwice s 16 "SALES" hvalue
  obtain rfl : length = 5 := by
    have hfive : (s.getInfo 16 []).1 = (.ofOutcome (.ok 5), []) := by decide +kernel
    rw [hasked] at hfive
    simpa [CallResult.ofOutcome] using hfive
  have hutf8 : Bytes.utf8 "SALES" ++ [0] = [83, 65, 76, 69, 83, 0] := by decide +kernel
  refine ⟨rfl, (hwrite s.configuration .v2_1_0 3 [7]).2 _ rfl, hvalue, ?_⟩
  rw [← hutf8]
  exact hthen _ rfl

end Session

end SqlSession
