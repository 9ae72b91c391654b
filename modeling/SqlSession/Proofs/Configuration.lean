import SqlSession.Negotiation
import SqlSession.Proofs.Attribute
import SqlSession.Proofs.Text.Numeral
/-!
# Writing and reading configurations

A configuration that was read from a connection string is `Printable`.  Its connection string reads
as the same configuration, but with an address the server and the port are lost (`printed`).  The
server does not matter then; the port does, if the address names none.

* `ofConnectString_connectString`: what a written configuration is read as.
* `connectString_roundtrip`: what comes back asks for the same session, at the same endpoint unless
  the configuration `LosesPort`.
* `connectString_restores`: what comes back is the configuration itself if no address hides a server
  or a port.
-/

namespace SqlSession.Configuration

open Text Attribute

/-! ## Printable configurations -/

/-- A configuration whose texts can be written. -/
structure Printable (c : Configuration) : Prop where
  dsn : ∀ dsn ∈ c.dsn, Writable dsn
  driver : Writable c.driver
  address : ∀ address ∈ c.address, Writable address ∧ address.isEmpty = false
  server : Writable c.server
  schema : Writable c.schema
  pageSize : c.pageSize ≠ 0
  protocolVersion : Writable c.protocolVersion

theorem printable_default : Printable {} where
  dsn := by rintro dsn ⟨⟩
  driver := ⟨by decide, by decide⟩
  address := by rintro address ⟨⟩
  server := ⟨by decide, by decide⟩
  schema := ⟨by decide, by decide⟩
  pageSize := by decide
  protocolVersion := ⟨by decide, by decide⟩

theorem printable_set {c c' : Configuration} {field : Field} {value : String} (h : Printable c)
    (hvalue : Writable value) (hset : c.set? field value = some c') : Printable c' := by
  cases field <;> simp only [set?, Option.some.injEq, Option.map_eq_some_iff] at hset
  case dsn =>
    subst hset
    exact { h with dsn := by simpa using hvalue }
  case driver =>
    subst hset
    exact { h with driver := hvalue }
  case address =>
    subst hset
    refine { h with address := ?_ }
    intro address haddress
    dsimp only at haddress
    split at haddress
    · simp at haddress
    · rename_i hne
      obtain rfl : value = address := by simpa using haddress
      exact ⟨hvalue, by simpa using hne⟩
  case server =>
    subst hset
    exact { h with server := hvalue }
  case schema =>
    subst hset
    exact { h with schema := hvalue }
  case protocolVersion =>
    subst hset
    exact { h with protocolVersion := hvalue }
  case pageSize =>
    obtain ⟨size, hsize, rfl⟩ := hset
    refine { h with pageSize := ?_ }
    simpa using (Option.filter_eq_some_iff.1 hsize).2
  all_goals
    obtain ⟨_, -, rfl⟩ := hset
    exact { h with }

theorem printable_setAttribute {c c' : Configuration} {a : Attribute} (h : Printable c)
    (ha : Fits a.value.toList) (hset : c.setAttribute a.key a.value = .ok c') :
    Printable c' := by
  unfold setAttribute at hset
  dsimp only at hset
  split at hset
  · simp only [Except.ok.injEq] at hset
    exact hset ▸ h
  · split at hset
    · rename_i c'' hc
      simp only [Except.ok.injEq] at hset
      exact hset ▸ printable_set h (writable_trimmed ha) hc
    · simp at hset

theorem printable_setAll {c : Configuration} {as : List Attribute} (h : Printable c)
    (has : ∀ a ∈ as, Fits a.value.toList) : Printable (c.setAll as).2 := by
  induction as generalizing c with
  | nil => exact h
  | cons a as ih =>
    unfold setAll
    split
    · rename_i c' hset
      have hnext := printable_setAttribute h (has a (by simp)) hset
      exact ih hnext fun a' ha' => has a' (by simp [ha'])
    · exact h

/-- **Reading.**  What is read from a connection string can be written. -/
theorem printable_of_ofConnectString {text : String} {c : Configuration}
    (h : ofConnectString text = .ok c) : Printable c := by
  unfold ofConnectString applyConnectString at h
  cases hparse : parseAll text with
  | error e => simp [hparse] at h
  | ok as =>
    have hprintable := printable_setAll printable_default (fits_of_parseAll hparse)
    rcases hset : ({} : Configuration).setAll as with ⟨⟨e⟩ | ⟨u⟩, c'⟩
    · simp [hparse, hset] at h
    · simp only [hparse, hset, Except.ok.injEq] at h
      rw [hset] at hprintable
      exact h ▸ hprintable

/-! ## Reading back -/

theorem isKey_key (field : Field) : IsKey field.key.toList := by
  have hall : field.key.toList.all (fun c => c ≠ ';' ∧ c ≠ '=' ∧ isBlank c = false ∧
      c.toUpper = c) = true := by
    cases field <;> decide
  refine ⟨by cases field <;> decide, fun c hc => ?_⟩
  exact of_decide_eq_true (List.all_eq_true.1 hall c hc)

theorem ofKey_key (field : Field) : Field.ofKey? field.key = some field := by cases field <;> rfl

theorem writable_toString (n : Nat) : Writable (toString n) := by
  have hdigit : ∀ c ∈ (toString n).toList, c.isDigit = true := fun c => isDigit_of_mem_toString
  refine ⟨trim_of_no_blank fun c hc => not_isBlank_of_isDigit (hdigit c hc), fun _ hclosing => ?_⟩
  exact absurd (hdigit _ hclosing) (by decide)

theorem writable_flagText (flag : Bool) : Writable (flagText flag) := by
  cases flag <;> exact ⟨by decide, by decide⟩

@[simp] theorem readFlag_flagText (flag : Bool) : readFlag (flagText flag) = some flag := by
  cases flag <;> decide

/-- Setting a written attribute sets its field. -/
theorem setAttribute_key (c : Configuration) (field : Field) {value : String}
    (h : Writable value) :
    c.setAttribute field.key value =
      match c.set? field value with
      | some c => .ok c
      | none => .error (.invalidValue field.key value) := by
  have hkey : String.ofList (upper (trim field.key.toList)) = field.key := by
    cases field <;> decide
  have hvalue : trimmed value = value := by rw [trimmed, h.trimmed, String.ofList_toList]
  cases hset : c.set? field value <;> simp only [setAttribute, hkey, hvalue, ofKey_key, hset]

theorem setAll_key (c : Configuration) (field : Field) {value : String} (as : List Attribute)
    (h : Writable value) :
    c.setAll (⟨field.key, value⟩ :: as) =
      match c.set? field value with
      | some c => c.setAll as
      | none => (.error (.invalidValue field.key value), c) := by
  rw [setAll, setAttribute_key c field h]
  cases c.set? field value <;> rfl

/-! The attributes of a configuration in parts: those that may be left out, and the others. -/

def dsnAttributes (c : Configuration) : List Attribute :=
  match c.dsn with
  | some dsn => [⟨Field.dsn.key, dsn⟩]
  | none => []

def placeAttributes (c : Configuration) : List Attribute :=
  match c.address with
  | some address => [⟨Field.address.key, address⟩]
  | none => [⟨Field.server.key, c.server⟩, ⟨Field.port.key, toString c.port.toNat⟩]

def sessionAttributes (c : Configuration) : List Attribute :=
  [⟨Field.schema.key, c.schema⟩,
   ⟨Field.pageSize.key, toString c.pageSize.toNat⟩,
   ⟨Field.protocolVersion.key, c.protocolVersion⟩,
   ⟨Field.distributedJoins.key, flagText c.distributedJoins⟩,
   ⟨Field.enforceJoinOrder.key, flagText c.enforceJoinOrder⟩,
   ⟨Field.replicatedOnly.key, flagText c.replicatedOnly⟩,
   ⟨Field.collocated.key, flagText c.collocated⟩,
   ⟨Field.lazy.key, flagText c.lazy⟩]

def timeoutAttributes (c : Configuration) : List Attribute :=
  if c.loginTimeout > 0 then [⟨Field.loginTimeout.key, toString c.loginTimeout.toNat⟩] else []

theorem attributes_eq (c : Configuration) :
    c.attributes = c.dsnAttributes ++ [⟨Field.driver.key, c.driver⟩] ++ c.placeAttributes ++
      c.sessionAttributes ++ c.timeoutAttributes := rfl

theorem readable_attributes {c : Configuration} (h : Printable c) :
    ∀ a ∈ c.attributes, Readable a := by
  have hfield : ∀ (field : Field) {value : String}, Writable value →
      Readable ⟨field.key, value⟩ := fun field value hvalue => ⟨isKey_key field, hvalue⟩
  rw [attributes_eq]
  simp only [List.forall_mem_append, List.forall_mem_cons, sessionAttributes, List.not_mem_nil,
    false_implies, implies_true, and_true]
  refine ⟨⟨⟨⟨?_, hfield _ h.driver⟩, ?_⟩, hfield _ h.schema, hfield _ (writable_toString _),
    hfield _ h.protocolVersion, hfield _ (writable_flagText _), hfield _ (writable_flagText _),
    hfield _ (writable_flagText _), hfield _ (writable_flagText _),
    hfield _ (writable_flagText _)⟩, ?_⟩
  · unfold dsnAttributes
    cases hdsn : c.dsn with
    | none => simp
    | some dsn => simpa using hfield .dsn (h.dsn dsn hdsn)
  · unfold placeAttributes
    cases haddress : c.address with
    | none => simpa using ⟨hfield .server h.server, hfield .port (writable_toString c.port.toNat)⟩
    | some address => simpa using hfield .address (h.address address haddress).1
  · unfold timeoutAttributes
    split
    · simpa using hfield .loginTimeout (writable_toString c.loginTimeout.toNat)
    · simp

/-- What a written configuration is read as.  With an address, server and port are not written. -/
def printed (c : Configuration) : Configuration :=
  match c.address with
  | none => c
  | some _ => { c with server := ({} : Configuration).server, port := defaultPort }

theorem printed_of_address {c : Configuration} {address : String}
    (h : c.address = some address) :
    c.printed = { c with server := ({} : Configuration).server, port := defaultPort } := by
  rw [printed, h]

theorem printed_eq (c : Configuration) :
    c.printed = { c with server := c.printed.server, port := c.printed.port } := by
  unfold printed
  split <;> rfl

@[simp] theorem setAll_nil (c : Configuration) : c.setAll [] = (.ok (), c) := rfl

theorem setAll_append (c : Configuration) (as bs : List Attribute) :
    c.setAll (as ++ bs) =
      match c.setAll as with
      | (.ok (), c) => c.setAll bs
      | (.error e, c) => (.error e, c) := by
  induction as generalizing c with
  | nil => rfl
  | cons a as ih =>
    rw [List.cons_append, setAll, setAll]
    cases c.setAttribute a.key a.value with
    | error e => rfl
    | ok c => exact ih c

theorem setAll_dsnAttributes {c d : Configuration} (h : Printable c) (hd : d.dsn = none) :
    d.setAll c.dsnAttributes = (.ok (), { d with dsn := c.dsn }) := by
  unfold dsnAttributes
  cases hdsn : c.dsn with
  | none => rw [setAll, ← hd]
  | some dsn =>
    rw [setAll_key _ _ _ (h.dsn dsn hdsn)]
    rfl

theorem setAll_placeAttributes {c d : Configuration} (h : Printable c) (hd : d.address = none)
    (hserver : d.server = ({} : Configuration).server) (hport : d.port = defaultPort) :
    d.setAll c.placeAttributes =
      (.ok (), { d with
        address := c.address, server := c.printed.server, port := c.printed.port }) := by
  unfold placeAttributes printed
  cases haddress : c.address with
  | none =>
    rw [setAll_key _ _ _ h.server]
    simp only [set?]
    rw [setAll_key _ _ _ (writable_toString _)]
    simp only [set?, readUInt16_toString, Option.map_some, ← hd, setAll_nil]
  | some address =>
    obtain ⟨hwritable, hne⟩ := h.address address haddress
    rw [setAll_key _ _ _ hwritable]
    simp only [set?, hne, Bool.false_eq_true, if_false, setAll_nil, hserver, hport]

theorem setAll_sessionAttributes {c : Configuration} (d : Configuration) (h : Printable c) :
    d.setAll c.sessionAttributes = (.ok (), { d with
      schema := c.schema
      pageSize := c.pageSize
      protocolVersion := c.protocolVersion
      distributedJoins := c.distributedJoins
      enforceJoinOrder := c.enforceJoinOrder
      replicatedOnly := c.replicatedOnly
      collocated := c.collocated
      lazy := c.lazy }) := by
  have hsize : (some c.pageSize).filter (· ≠ 0) = some c.pageSize := by simp [h.pageSize]
  simp only [sessionAttributes, setAll_key, h.schema, h.protocolVersion, writable_toString,
    writable_flagText, set?, readUInt32_toString, hsize, readFlag_flagText, Option.map_some,
    setAll_nil]

theorem setAll_timeoutAttributes {c d : Configuration} (hd : d.loginTimeout = 0) :
    d.setAll c.timeoutAttributes = (.ok (), { d with loginTimeout := c.loginTimeout }) := by
  unfold timeoutAttributes
  split
  · rw [setAll_key _ _ _ (writable_toString _)]
    simp only [set?, readUInt64_toString, Option.map_some, setAll_nil]
  · rename_i hzero
    have hc : c.loginTimeout = 0 := by
      rw [← UInt64.toNat_inj]
      have := UInt64.lt_iff_toNat_lt.not.1 hzero
      simpa using this
    rw [setAll, hc, ← hd]

theorem setAll_attributes {c : Configuration} (h : Printable c) :
    ({} : Configuration).setAll c.attributes = (.ok (), c.printed) := by
  have hdsn := setAll_dsnAttributes (d := {}) h rfl
  have hdriver : ({ dsn := c.dsn } : Configuration).setAll [⟨Field.driver.key, c.driver⟩] =
      (.ok (), { dsn := c.dsn, driver := c.driver }) := by
    rw [setAll_key _ _ _ h.driver]
    rfl
  have hplace := setAll_placeAttributes (d := { dsn := c.dsn, driver := c.driver }) h rfl rfl rfl
  simp only [attributes_eq, setAll_append, hdsn, hdriver, hplace, setAll_sessionAttributes _ h]
  rw [setAll_timeoutAttributes rfl]
  exact congrArg (Except.ok (), ·) (printed_eq c).symm

/-- Attributes that can be read back are set in order. -/
theorem ofConnectString_renderAll {as : List Attribute} (h : ∀ a ∈ as, Readable a) :
    ofConnectString (renderAll as) = ({} : Configuration).withAll as := by
  simp only [ofConnectString, applyConnectString, parseAll_renderAll as h, withAll]

/-- **Writing.**  A written configuration is read back, but for a server and a port that an address
hides. -/
theorem ofConnectString_connectString {c : Configuration} (h : Printable c) :
    ofConnectString c.connectString = .ok c.printed := by
  rw [connectString, ofConnectString_renderAll (readable_attributes h), withAll,
    setAll_attributes h]

/-! ## What is lost -/

/-- A port that is not the default one counts, as the address names none, but is not written. -/
def LosesPort (c : Configuration) : Prop :=
  c.port ≠ defaultPort ∧ ∃ address host, c.address = some address ∧
    splitAddress address.toList = some (host, none) ∧ host ≠ []

theorem prepare_printed (c : Configuration) :
    Negotiation.prepare c.printed = Negotiation.prepare c := by
  rw [printed_eq]
  rfl

theorem endpoint_printed (c : Configuration) : c.printed.endpoint = c.endpoint ↔ ¬ c.LosesPort := by
  unfold LosesPort
  cases haddress : c.address with
  | none =>
    have hprinted : c.printed = c := by rw [printed, haddress]
    simp [hprinted]
  | some address =>
    rw [printed_of_address haddress]
    simp only [endpoint, haddress, Option.some.injEq, addressEndpoint?]
    rcases hsplit : splitAddress address.toList with _ | ⟨_ | ⟨h, host⟩, _ | port⟩
    · simp [hsplit]
    · simp [hsplit]
    · simp [hsplit]
    · -- only here the port of the configuration is asked for
      simp [hsplit, eq_comm]
    · simp [hsplit]

/-- **Round trip.**  A configuration that was read from a connection string can be written and read
again; what comes back asks for the same session, at the same endpoint unless the port is lost. -/
theorem connectString_roundtrip (text : String) (c : Configuration)
    (h : ofConnectString text = .ok c) :
    ∃ c', ofConnectString c.connectString = .ok c' ∧
      (c'.endpoint = c.endpoint ↔ ¬ c.LosesPort) ∧
      Negotiation.prepare c' = Negotiation.prepare c ∧
      c'.schema = c.schema ∧ c'.connectTimeout = c.connectTimeout := by
  refine ⟨c.printed, ofConnectString_connectString (printable_of_ofConnectString h),
    endpoint_printed c, prepare_printed c, ?_, ?_⟩
  · rw [printed_eq]
  · rw [printed_eq]
    rfl

/-- Only a server or a port beside an address is lost. -/
theorem printed_eq_self_iff (c : Configuration) :
    c.printed = c ↔
      c.address = none ∨ c.server = ({} : Configuration).server ∧ c.port = defaultPort := by
  cases haddress : c.address with
  | none => simp [printed, haddress]
  | some address =>
    rw [printed_of_address haddress]
    constructor
    · intro h
      exact .inr ⟨(congrArg Configuration.server h).symm, (congrArg Configuration.port h).symm⟩
    · rintro (h | ⟨hserver, hport⟩)
      · simp at h
      · rw [← hserver, ← hport]

/-- **Fields.**  A configuration that was read from a connection string comes back from its own one
with every field as it was; but next to an address, server and port come back as the defaults. -/
theorem connectString_restores (text : String) (c : Configuration)
    (h : ofConnectString text = .ok c) :
    ofConnectString c.connectString =
        .ok (match c.address with
          | none => c
          | some _ => { c with server := ({} : Configuration).server, port := defaultPort }) ∧
      (ofConnectString c.connectString = .ok c ↔
        c.address = none ∨ c.server = ({} : Configuration).server ∧ c.port = defaultPort) := by
  have hread := ofConnectString_connectString (printable_of_ofConnectString h)
  refine ⟨hread, ?_⟩
  rw [hread, Except.ok.injEq]
  exact printed_eq_self_iff c

/-- Braces, separators and blanks inside values, and an address next to a server. -/
theorem connectString_restores_braces :
    ofConnectString
        "driver=\x7b a;b \x7d;SCHEMA= x\x7dy=z ;SERVER=\x7b \x7bs \x7d;DSN=;ADDRESS= h" =
        .ok { dsn := some "", driver := "a;b", address := some "h", server := "\x7bs",
              schema := "x\x7dy=z" } ∧
      ofConnectString ({ dsn := some "", driver := "a;b", address := some "h", server := "\x7bs",
                         schema := "x\x7dy=z" } : Configuration).connectString =
        .ok { dsn := some "", driver := "a;b", address := some "h", schema := "x\x7dy=z" } := by
  have hread : ofConnectString
      "driver=\x7b a;b \x7d;SCHEMA= x\x7dy=z ;SERVER=\x7b \x7bs \x7d;DSN=;ADDRESS= h" =
      .ok { dsn := some "", driver := "a;b", address := some "h", server := "\x7bs",
            schema := "x\x7dy=z" } := by decide +kernel
  exact ⟨hread, (connectString_restores _ _ hread).1⟩

/-- What an address and a port are read as. -/
theorem ofConnectString_address_port {address : String} (port : UInt16) (h : Writable address)
    (hne : address.isEmpty = false) :
    ofConnectString (renderAll
      [⟨Field.address.key, address⟩, ⟨Field.port.key, toString port.toNat⟩]) =
      .ok { address := some address, port := port } := by
  have hreadable : ∀ a ∈ [(⟨Field.address.key, address⟩ : Attribute),
      ⟨Field.port.key, toString port.toNat⟩], Readable a := by
    simp only [List.forall_mem_cons, List.not_mem_nil, false_implies, implies_true, and_true]
    exact ⟨⟨isKey_key _, h⟩, ⟨isKey_key _, writable_toString _⟩⟩
  rw [ofConnectString_renderAll hreadable, withAll, setAll_key _ _ _ h]
  simp only [set?, hne, Bool.false_eq_true, if_false]
  rw [setAll_key _ _ _ (writable_toString _)]
  simp only [set?, readUInt16_toString, Option.map_some, setAll_nil]

/-- An address with a port of its own loses nothing. -/
theorem connectString_roundtrip_own_port :
    ∃ c', ofConnectString ({ address := some "h:1", port := 1234 } : Configuration).connectString =
        .ok c' ∧ c'.endpoint = .ok ⟨"h", 1⟩ := by
  have hread : ofConnectString "ADDRESS=h:1;PORT=1234" =
      .ok { address := some "h:1", port := 1234 } := by
    have htext : renderAll [⟨Field.address.key, "h:1"⟩,
        ⟨Field.port.key, toString (1234 : UInt16).toNat⟩] = "ADDRESS=h:1;PORT=1234" := by decide
    rw [← htext]
    exact ofConnectString_address_port 1234 ⟨by decide, by decide⟩ (by decide)
  obtain ⟨c', hc', hendpoint, -⟩ := connectString_roundtrip _ _ hread
  refine ⟨c', hc', (hendpoint.2 ?_).trans rfl⟩
  rintro ⟨-, address, host, haddress, hsplit, -⟩
  obtain rfl : "h:1" = address := Option.some.inj haddress
  have hport : splitAddress "h:1".toList = some (['h'], some ['1']) := by decide
  exact absurd (hport.symm.trans hsplit) (by simp)

/-- An address without a port loses the one that was set beside it. -/
theorem connectString_loses_port :
    ∃ c c', ofConnectString "ADDRESS=db.local;PORT=1234" = .ok c ∧
      ofConnectString c.connectString = .ok c' ∧
      c.endpoint = .ok ⟨"db.local", 1234⟩ ∧ c'.endpoint = .ok ⟨"db.local", 10800⟩ := by
  have hread : ofConnectString "ADDRESS=db.local;PORT=1234" =
      .ok { address := some "db.local", port := 1234 } := by
    have htext : renderAll [⟨Field.address.key, "db.local"⟩,
        ⟨Field.port.key, toString (1234 : UInt16).toNat⟩] = "ADDRESS=db.local;PORT=1234" := by
      decide
    rw [← htext]
    exact ofConnectString_address_port 1234 ⟨by decide, by decide⟩ (by decide)
  exact ⟨_, _, hread, ofConnectString_connectString (printable_of_ofConnectString hread), rfl, rfl⟩

end SqlSession.Configuration
