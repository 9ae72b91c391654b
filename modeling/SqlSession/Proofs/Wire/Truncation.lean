import SqlSession.Proofs.Wire.Handshake
/-!
# Handshake messages, whole and cut short

A reader takes fields off the front and looks at no byte behind them.  So more bytes change neither
the value it read nor the error it found, unless a field was cut short (`Sequential`).  A message
that ends anywhere before its last byte is then reported as truncated, and never read as another
message or refused for another reason.

    Sequential read, Reads read bytes value, bytes cut short  →  truncated     (Sequential.cut)
    the lazy flag is carried  ↔  the version is at least 2.1.5                 (carriesLazy_iff)

`request_self_delimiting` and `response_self_delimiting` say it of the two messages: each is read
back whatever follows it, and cut short anywhere it is truncated.
-/

namespace SqlSession

namespace Version

/-! ## The order of versions -/

/-- A version is not before another: the first number in which they differ is larger in it. -/
def AtLeast (v w : Version) : Prop :=
  w.major < v.major ∨ w.major = v.major ∧
    (w.minor < v.minor ∨ w.minor = v.minor ∧ w.maintenance ≤ v.maintenance)

instance (v w : Version) : Decidable (v.AtLeast w) :=
  inferInstanceAs (Decidable (_ ∨ _ ∧ (_ ∨ _ ∧ _)))

theorem le_iff (v w : Version) : le v w = true ↔ w.AtLeast v := by
  simp only [le, compare, Ordering.isLE_then_iff_or, Int.compare_eq_lt, Int.isLE_compare,
    Std.compare_eq_iff_eq, Int16.toInt_inj, ← Int16.lt_iff_toInt_lt, ← Int16.le_iff_toInt_le,
    AtLeast]

end Version

namespace Handshake

variable {α β : Type}

theorem carriesLazy_iff (v : Version) : carriesLazy v = true ↔ v.AtLeast .v2_1_5 :=
  Version.le_iff .v2_1_5 v

example : carriesLazy ⟨3, -1, 0⟩ = true ∧ carriesLazy ⟨2, -1, 9⟩ = false := by decide

/-! ## Readers that look at nothing behind their fields -/

/-- A field needs more bytes than are left. -/
def Truncation (e : WireError) : Prop :=
  ∃ needed available, available < needed ∧ e = .truncated needed available

/-- More bytes behind those that were given change nothing, unless a field was cut short. -/
def Sequential (read : Reader α) : Prop :=
  ∀ bytes more,
    match read bytes with
    | .ok (value, rest) => read (bytes ++ more) = .ok (value, rest ++ more)
    | .error e => Truncation e ∨ read (bytes ++ more) = .error e

theorem Sequential.pure (value : α) : Sequential (pure value) := fun _ _ => rfl

/-- What is refused is refused whatever follows. -/
theorem Sequential.refuse (e : WireError) (next : β → Reader α) :
    Sequential (throw e >>= next) := fun _ _ => .inr rfl

theorem Sequential.throw (e : WireError) : Sequential (throw e : Reader α) := fun _ _ => .inr rfl

theorem Sequential.bind {read : Reader α} {next : α → Reader β} (hread : Sequential read)
    (hnext : ∀ a, Sequential (next a)) : Sequential (read >>= next) := by
  intro bytes more
  have hfirst := hread bytes more
  simp only [Bind.bind, StateT.bind, Except.bind]
  rcases hr : read bytes with e | ⟨a, rest⟩
  · rw [hr] at hfirst
    dsimp only at hfirst ⊢
    rcases hfirst with hcut | hsame
    · exact .inl hcut
    · rw [hsame]
      exact .inr rfl
  · rw [hr] at hfirst
    dsimp only at hfirst ⊢
    rw [hfirst]
    exact hnext a rest more

theorem Sequential.map {read : Reader α} (hread : Sequential read) (f : α → β) :
    Sequential (do return f (← read)) := hread.bind fun a => .pure (f a)

theorem Sequential.ite {c : Prop} [Decidable c] {yes no : Reader α} (hyes : Sequential yes)
    (hno : Sequential no) : Sequential (if c then yes else no) := by
  split
  · exact hyes
  · exact hno

/-- **Messages cut short.**  What a reader reads back it reports as truncated when any part of the
end is missing. -/
theorem Sequential.cut {read : Reader α} {bytes cut : Bytes} {value : α} (hread : Sequential read)
    (h : Reads read bytes value) (hcut : cut <+: bytes) (hne : cut ≠ bytes) :
    ∃ e, Truncation e ∧ read cut = .error e := by
  obtain ⟨more, rfl⟩ := hcut
  have hwhole := h []
  rw [List.append_nil] at hwhole
  have hpart := hread cut more
  rcases hr : read cut with e | ⟨a, rest⟩
  · rw [hr] at hpart
    rcases hpart with htruncation | hsame
    · exact ⟨e, htruncation, rfl⟩
    · simp [hwhole] at hsame
  · rw [hr] at hpart
    have hrest : [] = rest ++ more :=
      congrArg Prod.snd (Except.ok.inj (hwhole.symm.trans hpart))
    have hmore : more = [] := (List.append_eq_nil_iff.1 hrest.symm).2
    simp [hmore] at hne

/-- Bytes are read back as a value whatever follows them, and cut short anywhere they are reported
as truncated. -/
structure Delimited (decode : Bytes → Except WireError α) (bytes : Bytes) (value : α) : Prop where
  whole : ∀ rest, decode (bytes ++ rest) = .ok value
  cut : ∀ front, front <+: bytes → front ≠ bytes →
    ∃ needed available, available < needed ∧ decode front = .error (.truncated needed available)

theorem Sequential.delimited {read : Reader α} {bytes : Bytes} {value : α}
    (hread : Sequential read) (h : Reads read bytes value) :
    Delimited (fun payload => read.run' payload) bytes value where
  whole rest := h.run_append rest
  cut front hfront hne := by
    obtain ⟨e, ⟨needed, available, hlt, rfl⟩, hcut⟩ := hread.cut h hfront hne
    refine ⟨needed, available, hlt, ?_⟩
    show (read front).map (·.1) = _
    rw [hcut]
    rfl

/-! ## Fields -/

theorem sequential_take (n : Nat) : Sequential (take n) := by
  intro bytes more
  by_cases h : bytes.length < n
  · have hcut : take n bytes = .error (.truncated n bytes.length) := if_pos h
    rw [hcut]
    exact .inl ⟨n, bytes.length, h, rfl⟩
  · have hlong : ¬ (bytes ++ more).length < n := by
      rw [List.length_append]
      omega
    have htaken : take n bytes = .ok (bytes.take n, bytes.drop n) := if_neg h
    have hmore : take n (bytes ++ more) = .ok ((bytes ++ more).take n, (bytes ++ more).drop n) :=
      if_neg hlong
    rw [htaken]
    dsimp only
    rw [hmore, List.take_append_of_le_length (by omega), List.drop_append_of_le_length (by omega)]

theorem sequential_tag : Sequential readTag := (sequential_take 1).map _

theorem sequential_flag : Sequential readFlag := sequential_tag.map _

theorem sequential_int16 : Sequential readInt16 := (sequential_take 2).map _

theorem sequential_int32 : Sequential readInt32 := (sequential_take 4).map _

theorem sequential_version : Sequential readVersion :=
  sequential_int16.bind fun _ => sequential_int16.bind fun _ => sequential_int16.map _

theorem sequential_text : Sequential readText := by
  refine sequential_tag.bind fun tag => .ite (.pure none) (.ite ?_ (.throw _))
  refine sequential_int32.bind fun length => .ite (.refuse _ _) ?_
  refine (sequential_take _).bind fun bytes => ?_
  cases Bytes.ofUtf8? bytes with
  | some text => exact .pure (some text)
  | none => exact .throw _

/-! ## Messages -/

theorem sequential_request : Sequential readRequest := by
  refine sequential_tag.bind fun type => .ite (.refuse _ _) ?_
  refine sequential_version.bind fun version => ?_
  refine sequential_tag.bind fun client => .ite (.refuse _ _) ?_
  refine sequential_flag.bind fun distributedJoins => ?_
  refine sequential_flag.bind fun enforceJoinOrder => ?_
  refine sequential_flag.bind fun replicatedOnly => ?_
  refine sequential_flag.bind fun collocated => ?_
  exact .ite (sequential_flag.map _) (.pure _)

theorem sequential_response : Sequential readResponse := by
  refine sequential_flag.bind fun accepted => .ite (.pure _) ?_
  exact sequential_version.bind fun version => sequential_text.map _

theorem length_encode_request (r : Request) :
    r.encode.length = if carriesLazy r.version then 13 else 12 := by
  cases h : carriesLazy r.version <;> simp [Request.encode, encodeVersion, encodeFlag, h]

/-- **Requests.**  Whatever the codecs are latched to, a request is read back as it was written, but
for a lazy flag that a version before 2.1.5 does not carry. -/
theorem request_self_delimiting (writer reader : Codec) (r : Request) :
    let lazyCarried := r.version.AtLeast .v2_1_5
    Delimited reader.decodeRequest (writer.encodeRequest r)
        { r with lazy := r.lazy && decide lazyCarried } ∧
      (writer.encodeRequest r).length = if lazyCarried then 13 else 12 := by
  intro lazyCarried
  have hcarried : carriesLazy r.version = decide lazyCarried := by
    rw [Bool.eq_iff_iff, carriesLazy_iff, decide_eq_true_iff]
  have hlength := length_encode_request r
  have hread := reads_request r
  rw [hcarried] at hlength hread
  simp only [decide_eq_true_eq] at hlength
  exact ⟨sequential_request.delimited hread, hlength⟩

/-- **Responses.**  Whatever the codecs are latched to, an acceptance is read back as one, and a
rejection with its text and its version; one without a version names the current one. -/
theorem response_self_delimiting (writer reader : Codec) (r : Response)
    (htext : ∀ text ∈ r.errorText, (Bytes.utf8 text).length ≤ 2147483647) :
    Delimited reader.decodeResponse (writer.encodeResponse r)
      (if r.accepted then .acceptance
        else .rejection (r.serverVersion.getD .current) r.errorText) := by
  refine sequential_response.delimited ?_
  cases haccepted : r.accepted with
  | true => exact reads_acceptance haccepted
  | false =>
    have hfits : ∀ text ∈ r.errorText, (Bytes.utf8 text).length < 2147483648 := by
      intro text h
      have hle := htext text h
      omega
    exact reads_rejection haccepted hfits

/-- A rejection without a version, whose text is one letter of two bytes, is read back; cut within
that letter it is truncated. -/
theorem response_self_delimiting_letter :
    let r : Response := { accepted := false, errorText := some "é" }
    let bytes : Bytes := [0, 2, 0, 1, 0, 5, 0, 9, 2, 0, 0, 0, 195, 169]
    (∀ text ∈ r.errorText, (Bytes.utf8 text).length ≤ 2147483647) ∧
      Codec.encodeResponse { version := .v2_1_0 } r = bytes ∧
      Codec.decodeResponse {} (bytes ++ [7]) = .ok (.rejection .current (some "é")) ∧
      ∃ needed available, available < needed ∧
        Codec.decodeResponse {} (bytes.take 13) = .error (.truncated needed available) := by
  intro r bytes
  have htext : ∀ text ∈ r.errorText, (Bytes.utf8 text).length ≤ 2147483647 := by
    rintro _ ⟨⟩
    decide +kernel
  have hbytes : Codec.encodeResponse { version := .v2_1_0 } r = bytes := by decide +kernel
  have h := response_self_delimiting { version := .v2_1_0 } {} r htext
  rw [hbytes] at h
  exact ⟨htext, hbytes, h.whole [7], h.cut (bytes.take 13) (List.take_prefix _ _) (by decide)⟩

end Handshake

end SqlSession
