import SqlSession.Proofs.Wire.Response
/-!
# Reading back handshake messages

A reader `Reads` some bytes as a value if it takes exactly these bytes off the front, whatever
follows them.  Messages are read field by field, as they were written:

* `reads_request`: a request is read as it was written, but for a lazy flag that its version does
  not carry.
* `reads_acceptance`: nothing but the answer itself is read of an acceptance.
* `reads_rejection`: a rejection is read with the version and the text that were written.
-/

namespace SqlSession

namespace Bytes

/-! ## Texts -/

theorem toList_loop (bytes : ByteArray) (i : Nat) (found : Bytes) :
    ByteArray.toList.loop bytes i found = found.reverse ++ bytes.data.toList.drop i := by
  induction i, found using ByteArray.toList.loop.induct bytes with
  | case1 i found hi ih =>
    have hnext : bytes.data.toList.drop i = bytes.get! i :: bytes.data.toList.drop (i + 1) := by
      rw [List.drop_eq_getElem_cons (by simpa using hi)]
      congr 1
      exact (getElem!_pos bytes.data i hi).symm
    rw [ByteArray.toList.loop, if_pos hi, ih, hnext, List.reverse_cons, List.append_assoc]
    rfl
  | case2 i found hi =>
    rw [ByteArray.toList.loop, if_neg hi, List.drop_of_length_le (by simpa using hi),
      List.append_nil]

/-- A text is read back from its UTF-8 form. -/
theorem ofUtf8?_utf8 (text : String) : ofUtf8? (utf8 text) = some text := by
  have hbytes : ByteArray.mk (utf8 text).toArray = text.toByteArray := by
    rw [utf8, ByteArray.toList, toList_loop]
    rfl
  rw [ofUtf8?, hbytes, String.fromUTF8?, dif_pos text.isValidUTF8]
  rfl

end Bytes

namespace Handshake

variable {α β : Type}

/-! ## Readers -/

/-- A reader takes exactly these bytes off the front, and gives the value. -/
def Reads (read : Reader α) (bytes : Bytes) (value : α) : Prop :=
  ∀ rest, read (bytes ++ rest) = .ok (value, rest)

theorem Reads.pure (value : α) : Reads (pure value) [] value := fun _ => rfl

/-- What two readers take stands one behind the other. -/
theorem Reads.bind {read : Reader α} {next : α → Reader β} {front back : Bytes} {a : α} {b : β}
    (ha : Reads read front a) (hb : Reads (next a) back b) :
    Reads (read >>= next) (front ++ back) b := by
  intro rest
  have hfront := ha (back ++ rest)
  rw [List.append_assoc]
  simp only [Bind.bind, StateT.bind, Except.bind, hfront]
  exact hb rest

theorem Reads.map {read : Reader α} {bytes : Bytes} {a : α} (h : Reads read bytes a) (f : α → β) :
    Reads (do return f (← read)) bytes (f a) := by
  rw [← List.append_nil bytes]
  exact h.bind (.pure (f a))

/-- Bytes are read as what they were written for, whatever follows them. -/
theorem Reads.run_append {read : Reader α} {bytes : Bytes} {value : α} (h : Reads read bytes value)
    (rest : Bytes) : read.run' (bytes ++ rest) = .ok value := by
  show (read (bytes ++ rest)).map (·.1) = .ok value
  rw [h rest]
  rfl

theorem Reads.run {read : Reader α} {bytes : Bytes} {value : α} (h : Reads read bytes value) :
    read.run' bytes = .ok value := by
  have hread := h.run_append []
  rwa [List.append_nil] at hread

/-! ## Fields -/

theorem reads_take (bytes : Bytes) : Reads (take bytes.length) bytes bytes := by
  intro rest
  simp [take]

theorem reads_tag (tag : UInt8) : Reads readTag [tag] tag.toInt8 := by
  have h := (reads_take [tag]).map fun bytes =>
    (UInt8.ofNat (Bytes.ofLittleEndian bytes)).toInt8
  have hvalue : UInt8.ofNat (Bytes.ofLittleEndian [tag]) = tag := UInt8.ofNat_toNat
  rw [hvalue] at h
  exact h

theorem reads_flag (flag : Bool) : Reads readFlag (encodeFlag flag) flag := by
  have h := (reads_tag (if flag then 1 else 0)).map (· != 0)
  cases flag <;> exact h

theorem reads_int16 (n : Int16) :
    Reads readInt16 (Bytes.littleEndian 2 n.toUInt16.toNat) n := by
  have h := (reads_take (Bytes.littleEndian 2 n.toUInt16.toNat)).map fun bytes =>
    (UInt16.ofNat (Bytes.ofLittleEndian bytes)).toInt16
  have hpow : Nat.pow 256 2 = 65536 := rfl
  have hlt := n.toUInt16.toNat_lt
  rw [Bytes.ofLittleEndian_littleEndian, hpow, Nat.mod_eq_of_lt hlt, UInt16.ofNat_toNat,
    Int16.toInt16_toUInt16, Bytes.length_littleEndian] at h
  exact h

theorem reads_int32 {n : Nat} (hn : n < 4294967296) :
    Reads readInt32 (Bytes.littleEndian 4 n) (UInt32.ofNat n).toInt32 := by
  have h := (reads_take (Bytes.littleEndian 4 n)).map fun bytes =>
    (UInt32.ofNat (Bytes.ofLittleEndian bytes)).toInt32
  have hpow : Nat.pow 256 4 = 4294967296 := rfl
  rw [Bytes.ofLittleEndian_littleEndian, hpow, Nat.mod_eq_of_lt hn, Bytes.length_littleEndian] at h
  exact h

theorem reads_version (v : Version) : Reads readVersion (encodeVersion v) v := by
  unfold readVersion encodeVersion
  rw [List.append_assoc]
  refine (reads_int16 v.major).bind ?_
  refine (reads_int16 v.minor).bind ?_
  exact (reads_int16 v.maintenance).map _

/-- A text is read if a signed 32-bit number holds its length. -/
theorem reads_text {text : Option String}
    (h : ∀ t ∈ text, (Bytes.utf8 t).length < 2147483648) :
    Reads readText (encodeText text) text := by
  unfold readText
  cases text with
  | none =>
    show Reads _ ([nullTag] ++ []) _
    refine (reads_tag nullTag).bind ?_
    rw [if_pos rfl]
    exact Reads.pure none
  | some t =>
    have hlength := h t rfl
    have hint : ((UInt32.ofNat (Bytes.utf8 t).length).toInt32).toInt = (Bytes.utf8 t).length := by
      have hsize : Int32.size = 4294967296 := rfl
      simp only [UInt32.toInt32_ofNat', Int32.toInt_ofNat', Int.bmod_def, hsize]
      split <;> omega
    show Reads _ ([textTag] ++ (Bytes.littleEndian 4 (Bytes.utf8 t).length ++ Bytes.utf8 t)) _
    refine (reads_tag textTag).bind ?_
    rw [if_neg (by decide), if_pos rfl]
    refine (reads_int32 (by omega)).bind ?_
    rw [if_neg (by omega)]
    intro rest
    have htake := reads_take (Bytes.utf8 t) rest
    simp only [Bind.bind, StateT.bind, Except.bind, hint, Int.toNat_natCast, htake,
      Bytes.ofUtf8?_utf8]
    rfl

/-! ## Messages -/

/-- **Requests.**  The lazy flag is lost under a version that does not carry it. -/
theorem reads_request (r : Request) :
    Reads readRequest r.encode { r with lazy := r.lazy && carriesLazy r.version } := by
  unfold readRequest Request.encode
  simp only [List.append_assoc]
  refine (reads_tag RequestType.handshake.tag).bind ?_
  rw [if_neg (by decide)]
  refine (reads_version r.version).bind ?_
  refine (reads_tag ClientType.odbc.tag).bind ?_
  rw [if_neg (by decide)]
  refine (reads_flag r.distributedJoins).bind ?_
  refine (reads_flag r.enforceJoinOrder).bind ?_
  refine (reads_flag r.replicatedOnly).bind ?_
  refine (reads_flag r.collocated).bind ?_
  cases carriesLazy r.version with
  | true =>
    rw [Bool.and_true]
    exact (reads_flag r.lazy).map _
  | false =>
    rw [Bool.and_false]
    exact Reads.pure _

/-- The text of a rejection is a part of it. -/
theorem length_errorText_le {r : Response} (hr : r.accepted = false) {text : String}
    (h : text ∈ r.errorText) : (Bytes.utf8 text).length ≤ r.encode.length := by
  have htext : r.errorText = some text := h
  simp only [Response.encode, hr, htext, encodeText, Bool.false_eq_true, if_false,
    List.length_append, List.length_cons]
  omega

theorem reads_acceptance {r : Response} (hr : r.accepted = true) :
    Reads readResponse r.encode .acceptance := by
  intro rest
  have hbytes : r.encode = [1] := by
    simp only [Response.encode, hr, encodeFlag, if_true, List.append_nil]
  rw [hbytes]
  exact readResponse_of_accepts 1 rest (by decide)

/-- **Rejections.**  One that names no version is read as if it named the current one. -/
theorem reads_rejection {r : Response} (hr : r.accepted = false)
    (h : ∀ t ∈ r.errorText, (Bytes.utf8 t).length < 2147483648) :
    Reads readResponse r.encode (.rejection (r.serverVersion.getD .current) r.errorText) := by
  unfold readResponse Response.encode
  rw [hr]
  refine (reads_flag false).bind ?_
  rw [if_neg (by decide)]
  refine (reads_version _).bind ?_
  exact (reads_text h).map _

end Handshake

end SqlSession
