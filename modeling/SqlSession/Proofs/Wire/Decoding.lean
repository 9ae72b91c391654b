import SqlSession.Proofs.Wire.Spelling
/-!
# Decoding handshake messages

Every byte string starts with a message or has a fault, and decoding says which.

    decodeRequest bytes = ok r      ↔  bytes start with a spelling of r
    decodeRequest bytes = error e   ↔  e is the fault of bytes

`decoding_exact` says it of requests and responses, together with the bytes that are taken off and
what a message that was read is written as.
-/

namespace SqlSession

namespace Handshake

variable {α β : Type}

/-! ## Requests -/

/-- Reads the flags of a request of a version. -/
def readFlags (version : Version) : Reader Request := do
  let distributedJoins ← readFlag
  let enforceJoinOrder ← readFlag
  let replicatedOnly ← readFlag
  let collocated ← readFlag
  let lazy ← if carriesLazy version then readFlag else pure false
  return { version, distributedJoins, enforceJoinOrder, replicatedOnly, collocated, lazy }

/-- Reads the kind of client and the flags of a request of a version. -/
def readClient (version : Version) : Reader Request := do
  let client ← readTag
  if (ClientType.ofTag? client).isNone then throw (.unexpectedClientType client)
  readFlags version

/-- Behind its type, a request is a version and what that version asks for. -/
theorem readRequest_typed (bytes : Bytes) :
    readRequest (1 :: bytes) = (readVersion >>= readClient) bytes := by
  unfold readRequest
  rw [← List.singleton_append]
  refine ((reads_tag 1).behind _ _).trans ?_
  rw [if_neg (by decide)]
  rfl

/-- Behind the type, the version and the kind of client only the flags are left. -/
theorem readRequest_behind (v : Version) (flags : Bytes) :
    readRequest (requestBytes v flags) = readFlags v flags := by
  show readRequest (1 :: (encodeVersion v ++ ([0] ++ flags))) = _
  rw [readRequest_typed]
  refine ((reads_version v).behind _ _).trans (((reads_tag 0).behind _ _).trans ?_)
  rw [if_neg (by decide)]

theorem requestBytes_append (v : Version) (flags rest : Bytes) :
    requestBytes v flags ++ rest = requestBytes v (flags ++ rest) := by
  simp [requestBytes]

theorem flags_of_atLeast {r : Request} (h : r.version.AtLeast .v2_1_5) :
    r.flags = [r.distributedJoins, r.enforceJoinOrder, r.replicatedOnly, r.collocated, r.lazy] := by
  simp [Request.flags, h]

theorem flags_of_not_atLeast {r : Request} (h : ¬ r.version.AtLeast .v2_1_5) :
    r.flags = [r.distributedJoins, r.enforceJoinOrder, r.replicatedOnly, r.collocated] := by
  simp [Request.flags, h]

/-- A flag is read in front of what follows it. -/
theorem reads_flag_cons {next : Bool → Reader β} {flags : Bytes} {value : β} (b : UInt8)
    (h : Reads (next (decide (b ≠ 0))) flags value) :
    Reads (readFlag >>= next) (b :: flags) value := (reads_flagByte b).bind h

theorem reads_flags {r : Request} {flags : Bytes} (h : SpellsFlags flags r) :
    Reads (readFlags r.version) flags r := by
  have hflags := h.carried
  unfold readFlags
  by_cases hlazy : r.version.AtLeast .v2_1_5
  · rw [flags_of_atLeast hlazy] at hflags
    simp only [List.map_eq_cons_iff, List.map_eq_nil_iff] at hflags
    obtain ⟨b₁, _, rfl, h₁, b₂, _, rfl, h₂, b₃, _, rfl, h₃, b₄, _, rfl, h₄, b₅, _, rfl, h₅, rfl⟩ :=
      hflags
    refine reads_flag_cons b₁ (reads_flag_cons b₂ (reads_flag_cons b₃ (reads_flag_cons b₄ ?_)))
    rw [(carriesLazy_iff _).2 hlazy, if_pos rfl, h₁, h₂, h₃, h₄]
    have hlast := (reads_flagByte b₅).map fun lazy => { r with lazy := lazy }
    rw [h₅] at hlast
    exact hlast
  · have hunset := h.lazy hlazy
    rw [flags_of_not_atLeast hlazy] at hflags
    simp only [List.map_eq_cons_iff, List.map_eq_nil_iff] at hflags
    obtain ⟨b₁, _, rfl, h₁, b₂, _, rfl, h₂, b₃, _, rfl, h₃, b₄, _, rfl, h₄, rfl⟩ := hflags
    refine reads_flag_cons b₁ (reads_flag_cons b₂ (reads_flag_cons b₃ (reads_flag_cons b₄ ?_)))
    rw [if_neg (fun h => hlazy ((carriesLazy_iff _).1 h)), h₁, h₂, h₃, h₄, ← hunset]
    exact Reads.pure r

/-- A flag that is missing is reported, however many are there. -/
theorem readFlags_of_short {v : Version} {flags : Bytes} (h : flags.length < flagCount v) :
    readFlags v flags = .error (.truncated 1 0) := by
  have hcons {next : Bool → Reader Request} (b : UInt8) (bs : Bytes) :
      (readFlag >>= next) (b :: bs) = next (decide (b ≠ 0)) bs := (reads_flagByte b).behind next bs
  unfold readFlags
  rcases flags with _ | ⟨a, _ | ⟨b, _ | ⟨c, _ | ⟨d, flags⟩⟩⟩⟩
  · exact fails_at_front _ readFlag_nil
  · refine (hcons _ _).trans ?_
    exact fails_at_front _ readFlag_nil
  · refine (hcons _ _).trans ((hcons _ _).trans ?_)
    exact fails_at_front _ readFlag_nil
  · refine (hcons _ _).trans ((hcons _ _).trans ((hcons _ _).trans ?_))
    exact fails_at_front _ readFlag_nil
  · refine (hcons _ _).trans ((hcons _ _).trans ((hcons _ _).trans ((hcons _ _).trans ?_)))
    -- four flags are too few only where the lazy flag is carried
    by_cases hlazy : v.AtLeast .v2_1_5
    · rw [flagCount, if_pos hlazy] at h
      obtain rfl : flags = [] := List.length_eq_zero_iff.1 (by simp only [List.length_cons] at h; omega)
      rw [(carriesLazy_iff _).2 hlazy, if_pos rfl]
      exact fails_at_front _ readFlag_nil
    · rw [flagCount, if_neg hlazy] at h
      simp only [List.length_cons] at h
      omega

/-- Enough bytes spell the flags of a request. -/
theorem exists_flags {v : Version} {bytes : Bytes} (h : ¬ bytes.length < flagCount v) :
    ∃ r flags rest, r.version = v ∧ SpellsFlags flags r ∧ bytes = flags ++ rest := by
  have hfour : 4 ≤ bytes.length := by
    unfold flagCount at h
    split at h <;> omega
  match bytes, h, hfour with
  | a :: b :: c :: d :: bytes, h, _ =>
    by_cases hlazy : v.AtLeast .v2_1_5
    · rw [flagCount, if_pos hlazy] at h
      obtain ⟨e, rest, rfl⟩ : ∃ e rest, bytes = e :: rest := by
        cases bytes with
        | nil => simp at h
        | cons e rest => exact ⟨e, rest, rfl⟩
      let r : Request := ⟨v, a ≠ 0, b ≠ 0, c ≠ 0, d ≠ 0, e ≠ 0⟩
      exact ⟨r, [a, b, c, d, e], rest, rfl,
        ⟨(flags_of_atLeast (r := r) hlazy).symm, fun h => absurd hlazy h⟩, rfl⟩
    · let r : Request := ⟨v, a ≠ 0, b ≠ 0, c ≠ 0, d ≠ 0, false⟩
      exact ⟨r, [a, b, c, d], bytes, rfl,
        ⟨(flags_of_not_atLeast (r := r) hlazy).symm, fun _ => rfl⟩, rfl⟩

theorem reads_of_spellsRequest {bytes : Bytes} {r : Request} (h : SpellsRequest bytes r) :
    Reads readRequest bytes r := by
  cases h with
  | fields _ flags hflags =>
    intro rest
    rw [requestBytes_append, readRequest_behind]
    exact reads_flags hflags rest

theorem fails_of_requestFault {bytes : Bytes} {e : WireError} (h : RequestFault bytes e) :
    readRequest bytes = .error e := by
  cases h with
  | noType => exact fails_at_front _ readTag_nil
  | type t rest ht =>
    have htag : t.toInt8 ≠ 1 := fun h => ht (eq_of_toInt8_eq h)
    rw [← List.singleton_append]
    refine ((reads_tag t).behind _ _).trans ?_
    rw [if_pos (by simp [RequestType.ofTag?, htag])]
    rfl
  | version h =>
    rw [readRequest_typed]
    exact fails_at_front _ (obeys_version.fails h)
  | noClient v =>
    rw [readRequest_typed, ← List.append_nil (encodeVersion v)]
    exact ((reads_version v).behind _ _).trans (fails_at_front _ readTag_nil)
  | client v t rest ht =>
    have htag : t.toInt8 ≠ 0 := fun h => ht (eq_of_toInt8_eq h)
    rw [List.cons_append, readRequest_typed, ← List.singleton_append]
    refine ((reads_version v).behind _ _).trans (((reads_tag t).behind _ _).trans ?_)
    rw [if_pos (by simp [ClientType.ofTag?, htag])]
    rfl
  | noFlag v flags hflags => rw [readRequest_behind, readFlags_of_short hflags]

theorem request_decided (bytes : Bytes) :
    (∃ front rest r, SpellsRequest front r ∧ bytes = front ++ rest) ∨
      ∃ e, RequestFault bytes e := by
  rcases bytes with _ | ⟨t, bytes⟩
  · exact .inr ⟨_, .noType⟩
  by_cases ht : t ≠ 1
  · exact .inr ⟨_, .type t bytes ht⟩
  obtain rfl : t = 1 := Decidable.not_not.1 ht
  rcases obeys_version.decided bytes with ⟨_, left, v, rfl, rfl⟩ | ⟨e, hfault⟩
  · rcases left with _ | ⟨c, flags⟩
    · have hfault := RequestFault.noClient v
      rw [← List.append_nil (encodeVersion v)] at hfault
      exact .inr ⟨_, hfault⟩
    by_cases hc : c ≠ 0
    · exact .inr ⟨_, .client v c flags hc⟩
    obtain rfl : c = 0 := Decidable.not_not.1 hc
    by_cases hshort : flags.length < flagCount v
    · exact .inr ⟨_, .noFlag v flags hshort⟩
    · obtain ⟨r, carried, rest, rfl, hspells, rfl⟩ := exists_flags hshort
      refine .inl ⟨_, rest, r, .fields r carried hspells, ?_⟩
      rw [requestBytes_append]
      rfl
  · exact .inr ⟨e, .version hfault⟩

theorem obeys_request : Obeys readRequest SpellsRequest RequestFault where
  reads := reads_of_spellsRequest
  fails := fails_of_requestFault
  decided := request_decided

/-! ## Responses -/

/-- Reads the version and the text of a rejection. -/
def readRejection : Reader Response := do
  let serverVersion ← readVersion
  let errorText ← readText
  return .rejection serverVersion errorText

/-- A response that starts with a 0 is a rejection. -/
theorem readResponse_zero (bytes : Bytes) : readResponse (0 :: bytes) = readRejection bytes := by
  unfold readResponse
  rw [← List.singleton_append]
  refine ((reads_flagByte 0).behind _ _).trans ?_
  rw [if_neg (by decide)]
  rfl

theorem reads_of_spellsResponse {bytes : Bytes} {r : Response} (h : SpellsResponse bytes r) :
    Reads readResponse bytes r := by
  cases h with
  | acceptance b hb =>
    unfold readResponse
    rw [← List.append_nil [b]]
    refine (reads_flagByte b).bind ?_
    rw [if_pos (decide_eq_true hb)]
    exact Reads.pure _
  | rejection v htext =>
    intro rest
    rw [List.cons_append, List.cons_append, readResponse_zero]
    exact (reads_version v).bind ((obeys_text.reads htext).map _) rest

theorem fails_of_responseFault {bytes : Bytes} {e : WireError} (h : ResponseFault bytes e) :
    readResponse bytes = .error e := by
  cases h with
  | noFlag => exact fails_at_front _ readFlag_nil
  | version h =>
    rw [readResponse_zero]
    exact fails_at_front _ (obeys_version.fails h)
  | text v h =>
    rw [List.cons_append, readResponse_zero]
    exact ((reads_version v).behind _ _).trans (fails_at_front _ (obeys_text.fails h))

theorem response_decided (bytes : Bytes) :
    (∃ front rest r, SpellsResponse front r ∧ bytes = front ++ rest) ∨
      ∃ e, ResponseFault bytes e := by
  rcases bytes with _ | ⟨b, bytes⟩
  · exact .inr ⟨_, .noFlag⟩
  by_cases hb : b ≠ 0
  · exact .inl ⟨[b], bytes, _, .acceptance b hb, rfl⟩
  obtain rfl : b = 0 := Decidable.not_not.1 hb
  rcases obeys_version.decided bytes with ⟨_, left, v, rfl, rfl⟩ | ⟨e, hfault⟩
  · rcases obeys_text.decided left with ⟨front, rest, text, hspells, rfl⟩ | ⟨e, hfault⟩
    · refine .inl ⟨_, rest, _, .rejection v hspells, ?_⟩
      rw [List.cons_append, List.cons_append, List.append_assoc]
    · exact .inr ⟨e, .text v hfault⟩
  · exact .inr ⟨e, .version hfault⟩

theorem obeys_response : Obeys readResponse SpellsResponse ResponseFault where
  reads := reads_of_spellsResponse
  fails := fails_of_responseFault
  decided := response_decided

/-! ## Writing what was read -/

theorem encode_request_eq (r : Request) :
    r.encode = requestBytes r.version (r.flags.map fun flag => if flag then 1 else 0) := by
  by_cases hlazy : r.version.AtLeast .v2_1_5
  · simp [Request.encode, requestBytes, flags_of_atLeast hlazy, (carriesLazy_iff _).2 hlazy,
      encodeFlag, RequestType.tag, ClientType.tag]
  · have hnot : ¬ carriesLazy r.version = true := fun h => hlazy ((carriesLazy_iff _).1 h)
    simp [Request.encode, requestBytes, flags_of_not_atLeast hlazy, hnot, encodeFlag,
      RequestType.tag, ClientType.tag]

/-- A request is written with a 1 for every flag that was set. -/
theorem encode_of_spellsFlags {r : Request} {flags : Bytes} (h : SpellsFlags flags r) :
    r.encode = requestBytes r.version (flags.map fun b => if b = 0 then 0 else 1) := by
  rw [encode_request_eq, ← h.carried, List.map_map]
  congr 1
  refine List.map_congr_left fun b _ => ?_
  by_cases hb : b = 0
  · simp [hb]
  · simp [hb]

/-- Four bytes that hold a length are those it is written with. -/
theorem littleEndian_of_signed32 {bytes : Bytes} {n : Nat} (h : bytes.length = 4)
    (hn : Bytes.signed32 bytes = n) : Bytes.littleEndian 4 n = bytes := by
  have hlt := Bytes.ofLittleEndian_lt bytes
  have hpow : Nat.pow 256 4 = 4294967296 := rfl
  rw [h, hpow] at hlt
  have hvalue : Bytes.ofLittleEndian bytes = n := by
    unfold Bytes.signed32 at hn
    dsimp only at hn
    split at hn <;> omega
  rw [← hvalue, ← h, Bytes.littleEndian_ofLittleEndian]

theorem encodeText_of_spells {bytes : Bytes} {text : Option String} (h : SpellsText bytes text) :
    encodeText text = bytes := by
  cases h with
  | absent => rfl
  | text length t hlength hvalue =>
    rw [encodeText, littleEndian_of_signed32 hlength hvalue]
    rfl

theorem encode_of_spellsResponse {bytes : Bytes} {r : Response} (h : SpellsResponse bytes r) :
    r.encode = if r.accepted then [1] else bytes := by
  cases h with
  | acceptance b hb => rfl
  | rejection v htext =>
    exact congrArg (0 :: encodeVersion v ++ ·) (encodeText_of_spells htext)

/-! ## Bytes that run out -/

/-- A field needs more bytes than are left, and those are the last of the bytes. -/
def RunsOut (bytes : Bytes) (needed available : Nat) : Prop :=
  available < needed ∧ ∃ front left, bytes = front ++ left ∧ left.length = available

theorem RunsOut.behind {bytes : Bytes} {needed available : Nat} (h : RunsOut bytes needed available)
    (front : Bytes) : RunsOut (front ++ bytes) needed available := by
  obtain ⟨hlt, read, left, rfl, hleft⟩ := h
  exact ⟨hlt, front ++ read, left, (List.append_assoc _ _ _).symm, hleft⟩

theorem runsOut_nil (bytes : Bytes) : RunsOut bytes 1 0 :=
  ⟨Nat.one_pos, bytes, [], (List.append_nil bytes).symm, rfl⟩

theorem runsOut_of_lt {needed : Nat} {left : Bytes} (h : left.length < needed) :
    RunsOut left needed left.length := ⟨h, [], left, rfl, rfl⟩

section

variable {bytes : Bytes} {needed available : Nat}

theorem runsOut_of_version (h : VersionFault bytes (.truncated needed available)) :
    RunsOut bytes needed available := by
  cases h with
  | cut numbers left _ hleft => exact (runsOut_of_lt hleft).behind numbers

theorem runsOut_of_text (h : TextFault bytes (.truncated needed available)) :
    RunsOut bytes needed available := by
  cases h with
  | noTag => exact runsOut_nil []
  | noLength left hleft => exact (runsOut_of_lt hleft).behind [9]
  | cut length left _ _ _ hleft => exact (runsOut_of_lt hleft).behind (9 :: length)

theorem runsOut_of_request (h : RequestFault bytes (.truncated needed available)) :
    RunsOut bytes needed available := by
  cases h with
  | noType => exact runsOut_nil []
  | version h => exact (runsOut_of_version h).behind [1]
  | noClient v => exact runsOut_nil _
  | noFlag v flags _ => exact runsOut_nil _

theorem runsOut_of_response (h : ResponseFault bytes (.truncated needed available)) :
    RunsOut bytes needed available := by
  cases h with
  | noFlag => exact runsOut_nil []
  | version h => exact (runsOut_of_version h).behind [0]
  | text v h => exact (runsOut_of_text h).behind (0 :: encodeVersion v)

end

/-! ## Decoding -/

section

variable {read : Reader α} {spells : Bytes → α → Prop} {fault : Bytes → WireError → Prop}
  {bytes : Bytes}

theorem Obeys.run_eq_ok_iff (h : Obeys read spells fault) {a : α} :
    read.run' bytes = .ok a ↔ ∃ front rest, spells front a ∧ bytes = front ++ rest := by
  show (read bytes).map (·.1) = .ok a ↔ _
  constructor
  · intro hrun
    rcases hread : read bytes with e | ⟨a', rest⟩
    · rw [hread] at hrun
      simp [Except.map] at hrun
    · rw [hread] at hrun
      obtain rfl : a' = a := Except.ok.inj hrun
      obtain ⟨front, hspells, hbytes⟩ := h.eq_ok_iff.1 hread
      exact ⟨front, rest, hspells, hbytes⟩
  · rintro ⟨front, rest, hspells, rfl⟩
    rw [h.reads hspells rest]
    rfl

theorem Obeys.run_eq_error_iff (h : Obeys read spells fault) {e : WireError} :
    read.run' bytes = .error e ↔ fault bytes e := by
  show (read bytes).map (·.1) = .error e ↔ _
  rw [← h.eq_error_iff]
  cases read bytes <;> simp [Except.map]

end

/-- **Decoding.**  Whatever the codec is latched to, a request or a response is read of bytes that
start with a spelling of it, and of no others.  The spelling is taken off, and it is what the message
is written as, but for the flags that are set.  All other bytes are refused for their fault, and
where bytes run out, those that are left are fewer than the field needs. -/
theorem decoding_exact (codec : Codec) (bytes : Bytes) :
    (∀ r, codec.decodeRequest bytes = .ok r ↔
      ∃ flags rest, bytes = requestBytes r.version flags ++ rest ∧ SpellsFlags flags r) ∧
    (∀ r flags rest, bytes = requestBytes r.version flags ++ rest → SpellsFlags flags r →
      readRequest bytes = .ok (r, rest) ∧
        codec.encodeRequest r =
          requestBytes r.version (flags.map fun b => if b = 0 then 0 else 1)) ∧
    (∀ e, codec.decodeRequest bytes = .error e ↔ RequestFault bytes e) ∧
    (∀ r, codec.decodeResponse bytes = .ok r ↔
      ∃ front rest, bytes = front ++ rest ∧ SpellsResponse front r) ∧
    (∀ r front rest, bytes = front ++ rest → SpellsResponse front r →
      readResponse bytes = .ok (r, rest) ∧
        codec.encodeResponse r = if r.accepted then [1] else front) ∧
    (∀ e, codec.decodeResponse bytes = .error e ↔ ResponseFault bytes e) ∧
    ∀ needed available,
      codec.decodeRequest bytes = .error (.truncated needed available) ∨
        codec.decodeResponse bytes = .error (.truncated needed available) →
      RunsOut bytes needed available := by
  refine ⟨fun r => ?_, ?_, fun e => obeys_request.run_eq_error_iff, fun r => ?_, ?_,
    fun e => obeys_response.run_eq_error_iff, ?_⟩
  · refine obeys_request.run_eq_ok_iff.trans ⟨?_, ?_⟩
    · rintro ⟨_, rest, ⟨_, flags, hflags⟩, hbytes⟩
      exact ⟨flags, rest, hbytes, hflags⟩
    · rintro ⟨flags, rest, hbytes, hflags⟩
      exact ⟨_, rest, .fields r flags hflags, hbytes⟩
  · rintro r flags rest rfl hflags
    exact ⟨obeys_request.reads (.fields r flags hflags) rest, encode_of_spellsFlags hflags⟩
  · refine obeys_response.run_eq_ok_iff.trans ⟨?_, ?_⟩
    · rintro ⟨front, rest, hspells, hbytes⟩
      exact ⟨front, rest, hbytes, hspells⟩
    · rintro ⟨front, rest, hbytes, hspells⟩
      exact ⟨front, rest, hspells, hbytes⟩
  · rintro r front rest rfl hspells
    exact ⟨obeys_response.reads hspells rest, encode_of_spellsResponse hspells⟩
  · rintro needed available (h | h)
    · exact runsOut_of_request (obeys_request.run_eq_error_iff.1 h)
    · exact runsOut_of_response (obeys_response.run_eq_error_iff.1 h)

/-- A negative length is reported though the text behind it is missing. -/
example : Codec.decodeResponse {} [0, 2, 0, 1, 0, 5, 0, 9, 254, 255, 255, 255] =
    .error (.invalidStringLength (-2)) := rfl

end Handshake

end SqlSession
