import SqlSession.Proofs.Wire.Frame
import SqlSession.Proofs.Wire.Truncation
/-!
# The bytes of handshake messages

What a message may look like on the wire, and what is wrong with bytes that are none, said in terms
of the bytes alone.  A message is *spelled* by bytes that may have anything behind them.  Bytes that
spell none have a *fault*: the first field that fails, in the order of reading, whatever is behind
that field.

    request    1, version, 0, a byte for each flag
    response   b ≠ 0   or   0, version, text
    text       101     or   9, length, UTF-8

A reader that `Obeys` a spelling and a fault decides between the two (`Obeys.eq_ok_iff`,
`Obeys.eq_error_iff`); here it is shown of versions and texts.
-/

namespace SqlSession

namespace Bytes

/-- Bytes that are read as a text are its UTF-8 form. -/
theorem utf8_of_ofUtf8? {bytes : Bytes} {text : String} (h : ofUtf8? bytes = some text) :
    utf8 text = bytes := by
  unfold ofUtf8? String.fromUTF8? at h
  split at h
  · rw [← Option.some.inj h, utf8, ByteArray.toList, toList_loop]
    rfl
  · simp at h

/-- Any two bytes are those of a signed 16-bit number. -/
theorem exists_int16 {bytes : Bytes} (h : bytes.length = 2) :
    ∃ n : Int16, littleEndian 2 n.toUInt16.toNat = bytes := by
  refine ⟨(UInt16.ofNat (ofLittleEndian bytes)).toInt16, ?_⟩
  have hlt := ofLittleEndian_lt bytes
  have hpow : Nat.pow 256 2 = UInt16.size := rfl
  rw [h, hpow] at hlt
  have hback := littleEndian_ofLittleEndian bytes
  rw [h] at hback
  rw [UInt16.toUInt16_toInt16, UInt16.toNat_ofNat_of_lt' hlt, hback]

end Bytes

namespace Handshake

variable {α β : Type}

/-- Any six bytes are those of a version. -/
theorem exists_version {bytes : Bytes} (h : bytes.length = 6) : ∃ v, encodeVersion v = bytes := by
  have hmajor : (bytes.take 2).length = 2 := by
    rw [List.length_take]
    omega
  have hminor : ((bytes.drop 2).take 2).length = 2 := by
    rw [List.length_take, List.length_drop]
    omega
  have hmaintenance : (bytes.drop 4).length = 2 := by
    rw [List.length_drop]
    omega
  obtain ⟨major, hmajor⟩ := Bytes.exists_int16 hmajor
  obtain ⟨minor, hminor⟩ := Bytes.exists_int16 hminor
  obtain ⟨maintenance, hmaintenance⟩ := Bytes.exists_int16 hmaintenance
  refine ⟨⟨major, minor, maintenance⟩, ?_⟩
  have hrest : bytes.drop 4 = (bytes.drop 2).drop 2 := by rw [List.drop_drop]
  rw [encodeVersion, hmajor, hminor, hmaintenance, hrest, List.append_assoc,
    List.take_append_drop, List.take_append_drop]

/-! ## Spellings -/

/-- The number of flags that a request of a version carries. -/
def flagCount (v : Version) : Nat := if v.AtLeast .v2_1_5 then 5 else 4

/-- The flags that a request carries, in their order on the wire. -/
def Request.flags (r : Request) : List Bool :=
  [r.distributedJoins, r.enforceJoinOrder, r.replicatedOnly, r.collocated] ++
    if r.version.AtLeast .v2_1_5 then [r.lazy] else []

/-- The bytes of a request of a version, with its flags written as given. -/
def requestBytes (v : Version) (flags : Bytes) : Bytes := 1 :: encodeVersion v ++ 0 :: flags

/-- Bytes spell the flags of a request, any byte but 0 one that is set; the lazy flag is not set if
it is not carried. -/
structure SpellsFlags (flags : Bytes) (r : Request) : Prop where
  carried : flags.map (fun b => decide (b ≠ 0)) = r.flags
  lazy : ¬ r.version.AtLeast .v2_1_5 → r.lazy = false

/-- Bytes spell a request. -/
inductive SpellsRequest : Bytes → Request → Prop
  | fields (r : Request) (flags : Bytes) : SpellsFlags flags r →
      SpellsRequest (requestBytes r.version flags) r

/-- Bytes spell a text or its absence. -/
inductive SpellsText : Bytes → Option String → Prop
  | absent : SpellsText [101] none
  | text (length : Bytes) (t : String) : length.length = 4 →
      Bytes.signed32 length = (Bytes.utf8 t).length →
      SpellsText (9 :: length ++ Bytes.utf8 t) (some t)

/-- Bytes spell a response. -/
inductive SpellsResponse : Bytes → Response → Prop
  | acceptance (b : UInt8) : b ≠ 0 → SpellsResponse [b] .acceptance
  | rejection (v : Version) {bytes : Bytes} {text : Option String} : SpellsText bytes text →
      SpellsResponse (0 :: encodeVersion v ++ bytes) (.rejection v text)

/-! ## Faults -/

/-- Bytes end in one of the three numbers of a version. -/
inductive VersionFault : Bytes → WireError → Prop
  | cut (numbers left : Bytes) :
      numbers.length = 0 ∨ numbers.length = 2 ∨ numbers.length = 4 → left.length < 2 →
      VersionFault (numbers ++ left) (.truncated 2 left.length)

/-- The first field of a request that fails. -/
inductive RequestFault : Bytes → WireError → Prop
  | noType : RequestFault [] (.truncated 1 0)
  | type (t : UInt8) (rest : Bytes) : t ≠ 1 →
      RequestFault (t :: rest) (.unexpectedRequestType t.toInt8)
  | version {bytes : Bytes} {e : WireError} : VersionFault bytes e → RequestFault (1 :: bytes) e
  | noClient (v : Version) : RequestFault (1 :: encodeVersion v) (.truncated 1 0)
  | client (v : Version) (t : UInt8) (rest : Bytes) : t ≠ 0 →
      RequestFault (1 :: encodeVersion v ++ t :: rest) (.unexpectedClientType t.toInt8)
  | noFlag (v : Version) (flags : Bytes) : flags.length < flagCount v →
      RequestFault (requestBytes v flags) (.truncated 1 0)

/-- The first field of a text that fails. -/
inductive TextFault : Bytes → WireError → Prop
  | noTag : TextFault [] (.truncated 1 0)
  | tag (t : UInt8) (rest : Bytes) : t ≠ 9 → t ≠ 101 →
      TextFault (t :: rest) (.invalidStringTag t.toInt8)
  | noLength (left : Bytes) : left.length < 4 → TextFault (9 :: left) (.truncated 4 left.length)
  | negative (length rest : Bytes) (n : Int32) : length.length = 4 →
      Bytes.signed32 length = n.toInt → n.toInt < 0 →
      TextFault (9 :: length ++ rest) (.invalidStringLength n)
  | cut (length left : Bytes) (n : Nat) : length.length = 4 → Bytes.signed32 length = n →
      left.length < n → TextFault (9 :: length ++ left) (.truncated n left.length)
  | notUtf8 (length text rest : Bytes) : length.length = 4 →
      Bytes.signed32 length = text.length → (∀ t, Bytes.utf8 t ≠ text) →
      TextFault (9 :: length ++ text ++ rest) .invalidUtf8

/-- The first field of a response that fails. -/
inductive ResponseFault : Bytes → WireError → Prop
  | noFlag : ResponseFault [] (.truncated 1 0)
  | version {bytes : Bytes} {e : WireError} : VersionFault bytes e → ResponseFault (0 :: bytes) e
  | text (v : Version) {bytes : Bytes} {e : WireError} : TextFault bytes e →
      ResponseFault (0 :: encodeVersion v ++ bytes) e

/-! ## Readers that decide -/

/-- A reader reads what is spelled, fails with the fault of anything else, and nothing is without
both. -/
structure Obeys (read : Reader α) (spells : Bytes → α → Prop) (fault : Bytes → WireError → Prop) :
    Prop where
  reads : ∀ {bytes a}, spells bytes a → Reads read bytes a
  fails : ∀ {bytes e}, fault bytes e → read bytes = .error e
  decided : ∀ bytes, (∃ front rest a, spells front a ∧ bytes = front ++ rest) ∨ ∃ e, fault bytes e

section

variable {read : Reader α} {spells : Bytes → α → Prop} {fault : Bytes → WireError → Prop}
  {bytes : Bytes}

theorem Obeys.eq_ok_iff (h : Obeys read spells fault) {a : α} {rest : Bytes} :
    read bytes = .ok (a, rest) ↔ ∃ front, spells front a ∧ bytes = front ++ rest := by
  constructor
  · intro hread
    rcases h.decided bytes with ⟨front, rest', a', hspells, rfl⟩ | ⟨e, hfault⟩
    · obtain ⟨rfl, rfl⟩ := Prod.mk.inj (Except.ok.inj ((h.reads hspells rest').symm.trans hread))
      exact ⟨front, hspells, rfl⟩
    · exact absurd ((h.fails hfault).symm.trans hread) (by simp)
  · rintro ⟨front, hspells, rfl⟩
    exact h.reads hspells rest

theorem Obeys.eq_error_iff (h : Obeys read spells fault) {e : WireError} :
    read bytes = .error e ↔ fault bytes e := by
  constructor
  · intro hread
    rcases h.decided bytes with ⟨front, rest, a, hspells, rfl⟩ | ⟨e', hfault⟩
    · exact absurd ((h.reads hspells rest).symm.trans hread) (by simp)
    · obtain rfl := Except.error.inj ((h.fails hfault).symm.trans hread)
      exact hfault
  · exact h.fails

end

/-- Behind a field that is read, the rest of the reader runs on the rest of the bytes. -/
theorem Reads.behind {read : Reader α} {front : Bytes} {a : α} (h : Reads read front a)
    (next : α → Reader β) (left : Bytes) : (read >>= next) (front ++ left) = next a left := by
  have hfront := h left
  simp only [Bind.bind, StateT.bind, Except.bind, hfront]

/-- What fails at the front is the failure of the whole. -/
theorem fails_at_front {read : Reader α} (next : α → Reader β) {bytes : Bytes} {e : WireError}
    (h : read bytes = .error e) : (read >>= next) bytes = .error e := by
  simp only [Bind.bind, StateT.bind, Except.bind, h]

/-! ## Fields -/

theorem eq_of_toInt8_eq {a b : UInt8} (h : a.toInt8 = b.toInt8) : a = b := by
  rw [← UInt8.toUInt8_toInt8 a, h, UInt8.toUInt8_toInt8]

theorem take_of_short {n : Nat} {bytes : Bytes} (h : bytes.length < n) :
    take n bytes = .error (.truncated n bytes.length) := if_pos h

theorem readTag_nil : readTag [] = .error (.truncated 1 0) := rfl

theorem readFlag_nil : readFlag [] = .error (.truncated 1 0) := rfl

/-- Any byte but 0 is a flag that is set. -/
theorem reads_flagByte (b : UInt8) : Reads readFlag [b] (decide (b ≠ 0)) := by
  intro rest
  have hvalue : (b != 0) = decide (b ≠ 0) := by
    rw [Bool.eq_iff_iff, bne_iff_ne, decide_eq_true_iff]
  rw [← hvalue]
  exact readFlag_cons b rest

theorem readInt16_of_short {bytes : Bytes} (h : bytes.length < 2) :
    readInt16 bytes = .error (.truncated 2 bytes.length) :=
  fails_at_front _ (take_of_short h)

theorem readInt32_of_short {bytes : Bytes} (h : bytes.length < 4) :
    readInt32 bytes = .error (.truncated 4 bytes.length) :=
  fails_at_front _ (take_of_short h)

/-- Any four bytes are read as the signed number they hold. -/
theorem reads_signed32 {bytes : Bytes} (h : bytes.length = 4) :
    ∃ n : Int32, n.toInt = Bytes.signed32 bytes ∧ Reads readInt32 bytes n := by
  refine ⟨_, Bytes.toInt_ofLittleEndian bytes h, ?_⟩
  have hread := reads_take bytes
  rw [h] at hread
  exact hread.map _

/-! ## Versions -/

theorem fails_of_versionFault {bytes : Bytes} {e : WireError} (h : VersionFault bytes e) :
    readVersion bytes = .error e := by
  obtain ⟨numbers, left, hnumbers, hleft⟩ := h
  have hshort := readInt16_of_short hleft
  unfold readVersion
  rcases hnumbers with h | h | h
  · obtain rfl := List.length_eq_zero_iff.1 h
    exact fails_at_front _ hshort
  · obtain ⟨major, rfl⟩ := Bytes.exists_int16 h
    exact ((reads_int16 major).behind _ _).trans (fails_at_front _ hshort)
  · have hfirst : (numbers.take 2).length = 2 := by
      rw [List.length_take]
      omega
    have hsecond : (numbers.drop 2).length = 2 := by
      rw [List.length_drop]
      omega
    obtain ⟨major, hmajor⟩ := Bytes.exists_int16 hfirst
    obtain ⟨minor, hminor⟩ := Bytes.exists_int16 hsecond
    rw [← List.take_append_drop 2 numbers, ← hmajor, ← hminor, List.append_assoc]
    exact ((reads_int16 major).behind _ _).trans (((reads_int16 minor).behind _ _).trans
      (fails_at_front _ hshort))

/-- Fewer than six bytes end in a number that is cut; it stands behind an even number of bytes. -/
theorem versionFault_of_short {bytes : Bytes} (h : bytes.length < 6) :
    ∃ e, VersionFault bytes e := by
  have hfront : (bytes.take (bytes.length / 2 * 2)).length = bytes.length / 2 * 2 := by
    rw [List.length_take]
    omega
  have hnumbers : bytes.length / 2 * 2 = 0 ∨ bytes.length / 2 * 2 = 2 ∨
      bytes.length / 2 * 2 = 4 := by omega
  have hleft : (bytes.drop (bytes.length / 2 * 2)).length < 2 := by
    rw [List.length_drop]
    omega
  rw [← hfront] at hnumbers
  have hfault := VersionFault.cut _ _ hnumbers hleft
  rw [List.take_append_drop] at hfault
  exact ⟨_, hfault⟩

theorem obeys_version : Obeys readVersion (fun bytes v => bytes = encodeVersion v) VersionFault where
  reads := by
    rintro bytes v rfl
    exact reads_version v
  fails := fails_of_versionFault
  decided := by
    intro bytes
    by_cases h : bytes.length < 6
    · exact .inr (versionFault_of_short h)
    · obtain ⟨v, hv⟩ := exists_version (List.length_take_of_le (Nat.le_of_not_lt h))
      exact .inl ⟨_, bytes.drop 6, v, hv.symm, (List.take_append_drop 6 bytes).symm⟩

/-! ## Texts -/

/-- Reads the content of a text, which has `n` bytes. -/
def readContent (n : Nat) : Reader (Option String) := do
  let bytes ← take n
  match Bytes.ofUtf8? bytes with
  | some text => return some text
  | none => throw .invalidUtf8

/-- Reads the length and the content of a text. -/
def readSized : Reader (Option String) := do
  let length ← readInt32
  if length.toInt < 0 then throw (.invalidStringLength length)
  readContent length.toInt.toNat

/-- Behind its tag, the length and the content of a text are left. -/
theorem readText_tagged (left : Bytes) : readText (9 :: left) = readSized left := by
  unfold readText
  rw [← List.singleton_append]
  refine ((reads_tag 9).behind _ _).trans ?_
  rw [if_neg (by decide), if_pos (by decide)]
  rfl

/-- Behind a length that is not negative, only the content is left. -/
theorem readText_behind {length : Bytes} {n : Nat} (hlength : length.length = 4)
    (hvalue : Bytes.signed32 length = n) (left : Bytes) :
    readText (9 :: length ++ left) = readContent n left := by
  obtain ⟨m, hm, hread⟩ := reads_signed32 hlength
  have hcount : m.toInt.toNat = n := by omega
  rw [List.cons_append, readText_tagged]
  refine (hread.behind _ _).trans ?_
  rw [if_neg (by omega), hcount]

theorem reads_of_spellsText {bytes : Bytes} {text : Option String} (h : SpellsText bytes text) :
    Reads readText bytes text := by
  cases h with
  | absent =>
    unfold readText
    rw [← List.append_nil [101]]
    refine (reads_tag 101).bind ?_
    rw [if_pos (by decide)]
    exact Reads.pure none
  | text length t hlength hvalue =>
    intro rest
    rw [List.append_assoc, readText_behind hlength hvalue]
    refine ((reads_take (Bytes.utf8 t)).behind _ rest).trans ?_
    rw [Bytes.ofUtf8?_utf8]
    rfl

theorem fails_of_textFault {bytes : Bytes} {e : WireError} (h : TextFault bytes e) :
    readText bytes = .error e := by
  cases h with
  | noTag => exact fails_at_front _ readTag_nil
  | tag t rest htext hnull =>
    have hnull' : t.toInt8 ≠ nullTag.toInt8 := fun h => hnull (eq_of_toInt8_eq h)
    have htext' : t.toInt8 ≠ textTag.toInt8 := fun h => htext (eq_of_toInt8_eq h)
    unfold readText
    rw [← List.singleton_append]
    refine ((reads_tag t).behind _ _).trans ?_
    rw [if_neg hnull', if_neg htext']
    rfl
  | noLength left hleft =>
    rw [readText_tagged]
    exact fails_at_front _ (readInt32_of_short hleft)
  | negative length rest n hlength hvalue hneg =>
    obtain ⟨n', hn', hread⟩ := reads_signed32 hlength
    obtain rfl : n' = n := Int32.toInt_inj.1 (hn'.trans hvalue)
    rw [List.cons_append, readText_tagged]
    refine (hread.behind _ _).trans ?_
    rw [if_pos hneg]
    rfl
  | cut length left n hlength hvalue hleft =>
    rw [readText_behind hlength hvalue]
    exact fails_at_front _ (take_of_short hleft)
  | notUtf8 length text rest hlength hvalue hutf8 =>
    have hnone : Bytes.ofUtf8? text = none := by
      rw [Option.eq_none_iff_forall_ne_some]
      exact fun t ht => hutf8 t (Bytes.utf8_of_ofUtf8? ht)
    rw [List.append_assoc, readText_behind hlength hvalue]
    refine ((reads_take text).behind _ rest).trans ?_
    rw [hnone]
    rfl

/-- Behind a length there is the content of a text, or a fault. -/
theorem sized_decided {length : Bytes} (hlength : length.length = 4) (body : Bytes) :
    (∃ front rest text, SpellsText front text ∧ 9 :: length ++ body = front ++ rest) ∨
      ∃ e, TextFault (9 :: length ++ body) e := by
  obtain ⟨n, hn, -⟩ := reads_signed32 hlength
  by_cases hneg : n.toInt < 0
  · exact .inr ⟨_, .negative length body n hlength hn.symm hneg⟩
  obtain ⟨size, hsize⟩ := Int.eq_ofNat_of_zero_le (by omega : 0 ≤ n.toInt)
  by_cases hcut : body.length < size
  · exact .inr ⟨_, .cut length body size hlength (hn.symm.trans hsize) hcut⟩
  have htaken : (body.take size).length = size := List.length_take_of_le (by omega)
  have hvalue : Bytes.signed32 length = (body.take size).length := by
    rw [htaken]
    exact hn.symm.trans hsize
  rw [← List.take_append_drop size body, ← List.append_assoc]
  by_cases hutf8 : ∃ t, Bytes.utf8 t = body.take size
  · obtain ⟨t, ht⟩ := hutf8
    rw [← ht] at hvalue ⊢
    exact .inl ⟨_, body.drop size, some t, .text length t hlength hvalue, rfl⟩
  · exact .inr ⟨_, .notUtf8 length _ (body.drop size) hlength hvalue fun t ht => hutf8 ⟨t, ht⟩⟩

theorem text_decided (bytes : Bytes) :
    (∃ front rest text, SpellsText front text ∧ bytes = front ++ rest) ∨ ∃ e, TextFault bytes e := by
  rcases bytes with _ | ⟨t, rest⟩
  · exact .inr ⟨_, .noTag⟩
  by_cases hnull : t = 101
  · subst hnull
    exact .inl ⟨_, rest, none, .absent, rfl⟩
  by_cases htext : t ≠ 9
  · exact .inr ⟨_, .tag t rest htext hnull⟩
  obtain rfl : t = 9 := Decidable.not_not.1 htext
  by_cases hshort : rest.length < 4
  · exact .inr ⟨_, .noLength rest hshort⟩
  have hlength : (rest.take 4).length = 4 := List.length_take_of_le (by omega)
  rw [← List.take_append_drop 4 rest]
  exact sized_decided hlength (rest.drop 4)

theorem obeys_text : Obeys readText SpellsText TextFault where
  reads := reads_of_spellsText
  fails := fails_of_textFault
  decided := text_decided

end Handshake

end SqlSession
