import SqlSession.Configuration
import SqlSession.Proofs.Attribute
import SqlSession.Proofs.Text.Numeral
/-!
# Addresses

An address names a host, and a port unless it leaves that to the configuration:

    [host]:port   [host]     any host without a closing bracket
    host:port                no colon in the host, and no bracket in front
    host                     no colon or several of them, and no bracket in front

The host is never empty, and the port is a numeral with blanks around it.

    endpoint = ok e     ↔  the address is written for e, or there is none and e is server and port
    endpoint = error    ↔  it is written for no endpoint, or there is none and no server

`endpoint_address` says so, with the error and what does not matter to it.
-/

namespace SqlSession

open Text Attribute

/-! ## Addresses as they may be written -/

/-- The text of a port: a numeral, with blanks around it. -/
def PortText (cs : List Char) (port : UInt16) : Prop :=
  ∃ numeral, Padded cs numeral ∧ Numeral numeral port.toNat

/-- An address: a host, and a port unless it leaves that open. -/
inductive Address where
  /-- A host in brackets. -/
  | literal (host : List Char) (port : Option UInt16) (hhost : host ≠ []) (hclosing : ']' ∉ host)
  /-- A host in front of the only colon. -/
  | named (host : List Char) (port : UInt16) (hhost : host ≠ []) (hcolon : ':' ∉ host)
    (hbracket : host.head? ≠ some '[')
  /-- A host alone. -/
  | whole (host : List Char) (hhost : host ≠ []) (hcolons : host.count ':' ≠ 1)
    (hbracket : host.head? ≠ some '[')

namespace Address

/-- A text is an address as it may be written. -/
def Spells : Address → List Char → Prop
  | literal host none _ _, cs => cs = '[' :: (host ++ [']'])
  | literal host (some port) _ _, cs =>
    ∃ text, PortText text port ∧ cs = '[' :: (host ++ ']' :: ':' :: text)
  | named host port _ _ _, cs => ∃ text, PortText text port ∧ cs = host ++ ':' :: text
  | whole host _ _ _, cs => cs = host

/-- An address with its port in decimal digits. -/
def text : Address → String
  | literal host none _ _ => String.ofList ('[' :: (host ++ [']']))
  | literal host (some port) _ _ =>
    String.ofList ('[' :: (host ++ ']' :: ':' :: (toString port.toNat).toList))
  | named host port _ _ _ => String.ofList (host ++ ':' :: (toString port.toNat).toList)
  | whole host _ _ _ => String.ofList host

/-- The endpoint of an address; a port that it leaves open is `port`. -/
def endpoint (port : UInt16) : Address → Endpoint
  | literal host own _ _ => ⟨String.ofList host, own.getD port⟩
  | named host own _ _ _ => ⟨String.ofList host, own⟩
  | whole host _ _ _ => ⟨String.ofList host, port⟩

/-! ## Ports -/

theorem portText_iff (cs : List Char) (port : UInt16) :
    readUInt16 (trim cs) = some port ↔ PortText cs port := by
  rw [readUInt16_eq_some_iff]
  exact (exists_padded_iff (fun _ => trim_numeral) cs).symm

theorem portText_toString (port : UInt16) : PortText (toString port.toNat).toList port :=
  ⟨_, padded_self _, numeral_toString port.toNat⟩

/-- There is no colon in the text of a port. -/
theorem colon_not_mem_portText {cs : List Char} {port : UInt16} (h : PortText cs port) :
    ':' ∉ cs := by
  obtain ⟨numeral, ⟨before, behind, rfl, hbefore, hbehind⟩, hnumeral⟩ := h
  intro hmem
  simp only [List.mem_append] at hmem
  rcases hmem with hmem | hmem | hmem
  · exact absurd (hbefore _ hmem) (by decide)
  · rcases mem_numeral hnumeral hmem with hplus | hdigit
    · exact absurd hplus (by decide)
    · exact absurd hdigit (by decide)
  · exact absurd (hbehind _ hmem) (by decide)

/-- The usual way to write an address is one of those that are possible. -/
theorem spells_text (a : Address) : a.Spells a.text.toList := by
  rcases a with ⟨host, _ | port, _, _⟩ | ⟨host, port, _, _, _⟩ | ⟨host, _, _, _⟩
  · exact String.toList_ofList
  · exact ⟨_, portText_toString port, String.toList_ofList⟩
  · exact ⟨_, portText_toString port, String.toList_ofList⟩
  · exact String.toList_ofList

theorem host_endpoint_ne (a : Address) (port : UInt16) : (a.endpoint port).host ≠ "" := by
  have hne : ∀ {host : List Char}, host ≠ [] → String.ofList host ≠ "" := by
    intro host hhost hempty
    rw [← String.toList_inj, String.toList_ofList] at hempty
    exact hhost hempty
  rcases a with ⟨_, _, hhost, _⟩ | ⟨_, _, hhost, _, _⟩ | ⟨_, hhost, _, _⟩ <;> exact hne hhost

end Address

namespace Configuration

/-! ## Cutting an address -/

theorem splitAddress_literal {host : List Char} (h : ']' ∉ host) :
    splitAddress ('[' :: (host ++ [']'])) = some (host, none) := by
  simp only [splitAddress, cut_append h]

theorem splitAddress_literal_port {host : List Char} (h : ']' ∉ host) (text : List Char) :
    splitAddress ('[' :: (host ++ ']' :: ':' :: text)) = some (host, some text) := by
  simp only [splitAddress, cut_append h]

/-- Without a bracket in front, the number of colons decides. -/
theorem splitAddress_of_no_bracket {cs : List Char} (h : cs.head? ≠ some '[') :
    splitAddress cs = if cs.count ':' = 1 then some (cut ':' cs) else some (cs, none) := by
  unfold splitAddress
  split
  · exact absurd rfl h
  · rfl

theorem splitAddress_named {host text : List Char} (hhost : host ≠ []) (hcolon : ':' ∉ host)
    (hbracket : host.head? ≠ some '[') (htext : ':' ∉ text) :
    splitAddress (host ++ ':' :: text) = some (host, some text) := by
  have hhead : (host ++ ':' :: text).head? ≠ some '[' := by
    rwa [List.head?_append_of_ne_nil host hhost]
  have hcount : (host ++ ':' :: text).count ':' = 1 := by
    rw [List.count_append, List.count_cons_self, List.count_eq_zero_of_not_mem hcolon,
      List.count_eq_zero_of_not_mem htext]
  rw [splitAddress_of_no_bracket hhead, if_pos hcount, cut_append hcolon]

/-- An address in brackets that is cut ends with the bracket, or goes on with a colon. -/
theorem splitAddress_bracket {inner host : List Char} {port : Option (List Char)}
    (h : splitAddress ('[' :: inner) = some (host, port)) :
    ']' ∉ host ∧ (port = none ∧ inner = host ++ [']'] ∨
      ∃ text, port = some text ∧ inner = host ++ ']' :: ':' :: text) := by
  rcases hcut : cut ']' inner with ⟨front, _ | behind⟩
  · simp [splitAddress, hcut] at h
  · have hclosing := not_mem_of_cut hcut
    have hinner := cut_eq_some hcut
    rcases behind with _ | ⟨c, text⟩
    · simp only [splitAddress, hcut, Option.some.injEq, Prod.mk.injEq] at h
      obtain ⟨rfl, rfl⟩ := h
      exact ⟨hclosing, .inl ⟨rfl, hinner⟩⟩
    · by_cases hcolon : c = ':'
      · subst hcolon
        simp only [splitAddress, hcut, Option.some.injEq, Prod.mk.injEq] at h
        obtain ⟨rfl, rfl⟩ := h
        exact ⟨hclosing, .inr ⟨text, rfl, hinner⟩⟩
      · simp [splitAddress, hcut, hcolon] at h

/-- An address without a bracket is cut at its only colon, or it is a host alone. -/
theorem splitAddress_no_bracket {cs host : List Char} {port : Option (List Char)}
    (hbracket : cs.head? ≠ some '[') (h : splitAddress cs = some (host, port)) :
    (∃ text, port = some text ∧ ':' ∉ host ∧ cs = host ++ ':' :: text) ∨
      port = none ∧ cs.count ':' ≠ 1 ∧ cs = host := by
  rw [splitAddress_of_no_bracket hbracket] at h
  by_cases hcount : cs.count ':' = 1
  · rw [if_pos hcount, Option.some.injEq] at h
    cases port with
    | none =>
      -- a text with a colon is cut
      have hmem : ':' ∈ cs := List.count_pos_iff.1 (by omega)
      unfold cut at h
      split at h
      · rename_i hall
        exact absurd (List.dropWhile_eq_nil_iff.1 hall ':' hmem) (by decide)
      · simp at h
    | some text => exact .inl ⟨text, rfl, not_mem_of_cut h, cut_eq_some h⟩
  · rw [if_neg hcount, Option.some.injEq, Prod.mk.injEq] at h
    exact .inr ⟨h.2.symm, hcount, h.1⟩

/-! ## Endpoints -/

/-- An address with a port of its own has an endpoint if that is a port. -/
theorem addressEndpoint?_of_port {address : String} {host text : List Char}
    (h : splitAddress address.toList = some (host, some text)) (port : UInt16) (e : Endpoint) :
    addressEndpoint? address port = some e ↔
      host ≠ [] ∧ ∃ own, PortText text own ∧ e = ⟨String.ofList host, own⟩ := by
  cases host with
  | nil => simp [addressEndpoint?, h]
  | cons c host =>
    simp only [addressEndpoint?, h, Option.map_eq_some_iff, Address.portText_iff]
    simp [eq_comm]

/-- An address without one has the endpoint at the port it leaves open. -/
theorem addressEndpoint?_of_no_port {address : String} {host : List Char}
    (h : splitAddress address.toList = some (host, none)) (port : UInt16) (e : Endpoint) :
    addressEndpoint? address port = some e ↔ host ≠ [] ∧ e = ⟨String.ofList host, port⟩ := by
  cases host with
  | nil => simp [addressEndpoint?, h]
  | cons c host => simp [addressEndpoint?, h, eq_comm]

/-- **What is written is read.**  An address that is written for an endpoint names it. -/
theorem addressEndpoint?_of_spells {address : String} {a : Address} (h : a.Spells address.toList)
    (port : UInt16) : addressEndpoint? address port = some (a.endpoint port) := by
  rcases a with ⟨host, _ | own, hhost, hclosing⟩ | ⟨host, own, hhost, hcolon, hbracket⟩ |
    ⟨host, hhost, hcolons, hbracket⟩
  · have hsplit := splitAddress_literal hclosing
    rw [← show address.toList = _ from h] at hsplit
    exact (addressEndpoint?_of_no_port hsplit port _).2 ⟨hhost, rfl⟩
  · obtain ⟨text, htext, hcs⟩ := h
    have hsplit := splitAddress_literal_port hclosing text
    rw [← hcs] at hsplit
    exact (addressEndpoint?_of_port hsplit port _).2 ⟨hhost, own, htext, rfl⟩
  · obtain ⟨text, htext, hcs⟩ := h
    have hsplit :=
      splitAddress_named hhost hcolon hbracket (Address.colon_not_mem_portText htext)
    rw [← hcs] at hsplit
    exact (addressEndpoint?_of_port hsplit port _).2 ⟨hhost, own, htext, rfl⟩
  · obtain rfl : host = address.toList := Eq.symm h
    have hsplit := splitAddress_of_no_bracket hbracket
    rw [if_neg hcolons] at hsplit
    exact (addressEndpoint?_of_no_port hsplit port _).2 ⟨hhost, rfl⟩

/-- **What is read was written.**  An address that names an endpoint is written for it. -/
theorem spells_of_addressEndpoint? {address : String} {port : UInt16} {e : Endpoint}
    (h : addressEndpoint? address port = some e) :
    ∃ a : Address, a.Spells address.toList ∧ e = a.endpoint port := by
  rcases hsplit : splitAddress address.toList with _ | ⟨host, _ | text⟩
  · simp [addressEndpoint?, hsplit] at h
  · obtain ⟨hhost, he⟩ := (addressEndpoint?_of_no_port hsplit port e).1 h
    by_cases hbracket : address.toList.head? = some '['
    · obtain ⟨inner, hinner⟩ := List.head?_eq_some_iff.1 hbracket
      rw [hinner] at hsplit
      obtain ⟨hclosing, ⟨-, rfl⟩ | ⟨text, htext, -⟩⟩ := splitAddress_bracket hsplit
      · exact ⟨.literal host none hhost hclosing, hinner, he⟩
      · simp at htext
    · obtain ⟨text, htext, -⟩ | ⟨-, hcolons, rfl⟩ := splitAddress_no_bracket hbracket hsplit
      · simp at htext
      · exact ⟨.whole _ hhost hcolons hbracket, rfl, he⟩
  · obtain ⟨hhost, own, hown, he⟩ := (addressEndpoint?_of_port hsplit port e).1 h
    by_cases hbracket : address.toList.head? = some '['
    · obtain ⟨inner, hinner⟩ := List.head?_eq_some_iff.1 hbracket
      rw [hinner] at hsplit
      obtain ⟨hclosing, ⟨htext, -⟩ | ⟨text', htext, rfl⟩⟩ := splitAddress_bracket hsplit
      · simp at htext
      · obtain rfl := Option.some.inj htext
        exact ⟨.literal host (some own) hhost hclosing, ⟨text, hown, hinner⟩, he⟩
    · obtain ⟨text', htext, hcolon, hcs⟩ | ⟨htext, -⟩ := splitAddress_no_bracket hbracket hsplit
      · obtain rfl := Option.some.inj htext
        have hhead : host.head? ≠ some '[' := by
          rwa [hcs, List.head?_append_of_ne_nil host hhost] at hbracket
        exact ⟨.named host own hhost hcolon hhead, ⟨text, hown, hcs⟩, he⟩
      · simp at htext

/-- An address names nothing exactly if it is written for nothing. -/
theorem addressEndpoint?_eq_none_iff (address : String) (port : UInt16) :
    addressEndpoint? address port = none ↔ ∀ a : Address, ¬ a.Spells address.toList := by
  constructor
  · intro hnone a ha
    simp [addressEndpoint?_of_spells ha] at hnone
  · intro hnone
    rw [Option.eq_none_iff_forall_ne_some]
    intro e he
    obtain ⟨a, ha, -⟩ := spells_of_addressEndpoint? he
    exact hnone a ha

section

variable {c : Configuration} {address : String}

theorem endpoint_eq_ok_iff (h : c.address = some address) (e : Endpoint) :
    c.endpoint = .ok e ↔ addressEndpoint? address c.port = some e := by
  cases he : addressEndpoint? address c.port <;> simp [endpoint, h, he]

theorem endpoint_eq_error_iff (h : c.address = some address) (error : ConfigError) :
    c.endpoint = .error error ↔
      addressEndpoint? address c.port = none ∧ error = .invalidValue "ADDRESS" address := by
  cases he : addressEndpoint? address c.port <;> simp [endpoint, h, he, eq_comm]

end

/-- **Endpoints.**  An address is read back, whatever stands in the server field.  It names nothing
but what it is written for, and one that is written for nothing is the error.  Without an address
there is the server with the port, unless the server is empty. -/
theorem endpoint_address (c : Configuration) :
    (∀ a : Address,
      ({ c with address := some a.text } : Configuration).endpoint = .ok (a.endpoint c.port)) ∧
      (∀ address, c.address = some address →
        (∀ e, c.endpoint = .ok e ↔
          ∃ a : Address, a.Spells address.toList ∧ e = a.endpoint c.port) ∧
        (∀ error, c.endpoint = .error error ↔
          (∀ a : Address, ¬ a.Spells address.toList) ∧ error = .invalidValue "ADDRESS" address) ∧
        (∀ e, c.endpoint = .ok e → e.host ≠ "") ∧
        ∀ server, ({ c with server } : Configuration).endpoint = c.endpoint) ∧
      (c.address = none →
        c.endpoint =
          if c.server = "" then .error (.invalidValue "SERVER" "")
          else .ok ⟨c.server, c.port⟩) := by
  refine ⟨fun a => ?_, fun address h => ?_, fun h => ?_⟩
  · exact (endpoint_eq_ok_iff rfl _).2 (addressEndpoint?_of_spells a.spells_text c.port)
  · refine ⟨fun e => ⟨fun he => ?_, ?_⟩, fun error => ?_, fun e he => ?_, fun server => ?_⟩
    · exact spells_of_addressEndpoint? ((endpoint_eq_ok_iff h e).1 he)
    · rintro ⟨a, ha, rfl⟩
      exact (endpoint_eq_ok_iff h _).2 (addressEndpoint?_of_spells ha c.port)
    · rw [endpoint_eq_error_iff h, addressEndpoint?_eq_none_iff]
    · obtain ⟨a, -, rfl⟩ := spells_of_addressEndpoint? ((endpoint_eq_ok_iff h e).1 he)
      exact a.host_endpoint_ne c.port
    · simp only [endpoint, h]
  · by_cases hserver : c.server = ""
    · simp [endpoint, h, hserver]
    · simp [endpoint, h, hserver]

/-- A port with blanks, a sign and zeros; colons without brackets; and a port without a host. -/
theorem endpoint_address_padded :
    ({ address := some "[::1]: +080 ", server := "s" } : Configuration).endpoint =
        .ok ⟨"::1", 80⟩ ∧
      ({ address := some "::1:80", port := 7 } : Configuration).endpoint = .ok ⟨"::1:80", 7⟩ ∧
      ({ address := some ":80" } : Configuration).endpoint =
        .error (.invalidValue "ADDRESS" ":80") := by
  let bracketed : Configuration := { address := some "[::1]: +080 ", server := "s" }
  let colons : Configuration := { address := some "::1:80", port := 7 }
  let hostless : Configuration := { address := some ":80" }
  obtain ⟨-, hbracketed, -⟩ := bracketed.endpoint_address
  obtain ⟨-, hcolons, -⟩ := colons.endpoint_address
  obtain ⟨-, hhostless, -⟩ := hostless.endpoint_address
  have hport : PortText " +080 ".toList 80 := (Address.portText_iff _ _).1 (by decide)
  let literal : Address := .literal "::1".toList (some 80) (by decide) (by decide)
  let whole : Address := .whole "::1:80".toList (by decide) (by decide) (by decide)
  refine ⟨((hbracketed _ rfl).1 _).2 ⟨literal, ⟨_, hport, by decide⟩, by decide⟩,
    ((hcolons _ rfl).1 _).2 ⟨whole, rfl, by decide⟩, ((hhostless _ rfl).2.1 _).2 ⟨?_, rfl⟩⟩
  intro a ha
  have hnone : addressEndpoint? ":80" 0 = none := by decide
  have hsome : addressEndpoint? ":80" 0 = some (a.endpoint 0) := addressEndpoint?_of_spells ha 0
  exact absurd (hnone.symm.trans hsome) (by simp)

end Configuration

end SqlSession
