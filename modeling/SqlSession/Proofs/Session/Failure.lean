import SqlSession.Proofs.Session.Establish
import SqlSession.Proofs.Session.Run
/-!
# What a failed attempt leaves behind

A session that is not connected may still hold the version of an earlier session, if its transport
was closed behind its back.  A failed attempt leaves the session disconnected in every case, but it
forgets that version only if it got through to the node.

    negotiated after = none  ↔  negotiated before = none, or the attempt reached the node
-/

namespace SqlSession

namespace Session

variable {τ : Type} [Transport τ]

/-- A failed attempt leaves no session, and drops an old version if it reached the node. -/
theorem failed_establish [LawfulTransport τ] (s : Session τ) (c : Configuration)
    (hidle : s.isConnected = false) (h : (s.establish c).1.status = .error) :
    (s.establish c).2.state = .disconnected ∧
      ((s.establish c).2.negotiated = none ↔ s.negotiated = none ∨ s.Reaches c) := by
  rw [state_eq_disconnected_iff]
  obtain ⟨⟨e, hcheck⟩, -, hafter⟩ | ⟨endpoint, request, -, -, hrun⟩ := establish_cases s c
  · have hfails : ¬ s.Reaches c := by
      rintro ⟨endpoint, request, t, hok, -⟩
      exact absurd (hcheck.symm.trans hok) (by simp)
    rw [hafter]
    refine ⟨hidle, ?_⟩
    simp [hfails]
  · obtain ⟨-, -, hdown, hversion⟩ | ⟨hstatus, -⟩ := hrun
    · refine ⟨hdown, ?_⟩
      obtain ⟨hfails, hversion⟩ | ⟨hreaches, hversion⟩ := hversion
      · simp [hversion, hfails]
      · simp [hversion, hreaches]
    · simp [hstatus] at h

/-- **Failed attempts.**  Neither way to connect leaves a session behind when it fails; an old
version is gone exactly if there was none or the attempt reached the node. -/
theorem negotiated_after_failure [LawfulTransport τ] (s : Session τ)
    (hidle : s.isConnected = false) :
    (∀ c, (s.establish c).1.status = .error →
      (s.establish c).2.state = .disconnected ∧
        ((s.establish c).2.negotiated = none ↔ s.negotiated = none ∨ s.Reaches c)) ∧
    ∀ text, (s.establishWith text).1.status = .error →
      (s.establishWith text).2.state = .disconnected ∧
        ((s.establishWith text).2.negotiated = none ↔
          s.negotiated = none ∨
            ∃ c, Configuration.ofConnectString text = .ok c ∧ s.Reaches c) := by
  constructor
  · intro c h
    exact failed_establish s c hidle h
  · intro text h
    rw [establishWith_eq] at h ⊢
    cases htext : Configuration.ofConnectString text with
    | error e =>
      rw [state_eq_disconnected_iff]
      refine ⟨hidle, ?_⟩
      simp
    | ok c =>
      rw [htext] at h
      obtain ⟨hstate, hversion⟩ := failed_establish s c hidle h
      refine ⟨hstate, ?_⟩
      simp [hversion]

/-- A session that was established and whose transport was then closed. -/
def abandoned (t : MemoryTransport) : Session MemoryTransport :=
  run { handle := (({} : HandleSource).drawSession).1, transport := t }
    [.establish {}, .closeTransport]

theorem isConnected_abandoned (t : MemoryTransport) : (abandoned t).isConnected = false := by
  simp [abandoned, run, Action.apply, isConnected, MemoryTransport.close]

/-- It holds a version if the node accepted. -/
theorem negotiated_abandoned (t : MemoryTransport) {payload rest : Bytes}
    (hrefuses : t.refuses = false) (hloop : t.loopback = false) (hbudget : t.sendBudget = none)
    (hfront : Frame.AtFront t.inbound.toList payload rest) (haccepts : Handshake.Accepts payload) :
    (abandoned t).negotiated = some .current := by
  let s : Session MemoryTransport :=
    { handle := (({} : HandleSource).drawSession).1, transport := t }
  have hcheck : s.cleared.check {} = .ok (⟨"localhost", defaultPort⟩, { version := .current }) :=
    rfl
  obtain ⟨frame, hframe⟩ := Handshake.encode_request s.codec { version := .current }
  have hcovers : t.channel.Affords frame.length := by
    intro budget hmem
    have hnone : budget ∈ t.sendBudget := hmem
    simp [hbudget] at hnone
  have hstart := start_of_accepts hcheck hrefuses hloop hframe hcovers hfront haccepts
  show (s.establish {}).2.negotiated = some .current
  rw [establish_eq]
  exact hstart.2.version

theorem check_abandoned (t : MemoryTransport) :
    (abandoned t).cleared.check { protocolVersion := "9.9.9" } =
      .error (.invalidConnectionStringAttribute "Protocol version is not supported: 9.9.9") := by
  unfold check
  rw [isConnected_cleared, isConnected_abandoned]
  rfl

/-- An attempt with a version that is not supported. -/
theorem negotiated_after_failure_abandoned :
    let s := abandoned (({} : MemoryTransport).pushInbound [1, 0, 0, 0, 1])
    let c : Configuration := { protocolVersion := "9.9.9" }
    (s.establish c).2.state = .disconnected ∧
      ((s.establish c).2.negotiated = none ↔ s.negotiated = none ∨ s.Reaches c) := by
  intro s c
  refine (negotiated_after_failure s (isConnected_abandoned _)).1 c ?_
  simp only [s, c, establish_eq, start, check_abandoned]
  rfl

/-- Such an attempt leaves the version of the session before. -/
theorem stale_version_after_failure :
    let s := abandoned (({} : MemoryTransport).pushInbound [1, 0, 0, 0, 1])
    s.isConnected = false ∧
      (s.establish { protocolVersion := "9.9.9" }).1.status = .error ∧
      (s.establish { protocolVersion := "9.9.9" }).2.negotiated = some .current := by
  intro s
  have hfront : Frame.AtFront [1, 0, 0, 0, 1] [1] [] := ⟨[1, 0, 0, 0], rfl, by decide, rfl⟩
  have hversion : s.negotiated = some .current :=
    negotiated_abandoned _ rfl rfl rfl hfront ⟨1, [], rfl, by decide⟩
  refine ⟨isConnected_abandoned _, ?_, ?_⟩
  · simp only [s, establish_eq, start, check_abandoned]
    rfl
  · simp only [s, establish_eq, start, check_abandoned]
    exact hversion

end Session

end SqlSession
