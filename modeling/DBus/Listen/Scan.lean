import DBus.Listen.Model
/-
# What `dbus_server_listen` reports: the reference scan, and that the code is it

The spec (§4.1) describes the orchestrator as ONE scan over the attempts in entry-major,
backend-minor order: the first `OK` or `BAD_ADDRESS` attempt decides, and with no decisive
attempt the error is the first `DID_NOT_CONNECT` error, else "unknown address type" naming the
first entry's method, else "empty address".  `referenceListen` writes that down.

The code has two nested loops, a `goto out` and a fallback computed after the loops from
`handled_once` and `first_connect_error`.  The bridge is in three steps:

* the nested loops ARE the flat loop `scanFlat` over `scanOrder`, because the two assertions
  after each entry are no-ops while `server` and `*error` are still clear (`listenEntries_eq`);
* the flat loop stops exactly at the first decisive attempt, having called exactly the attempts
  before it, and otherwise keeps the first connect error (`scanFlat_decisive`,
  `scanFlat_exhausted`);
* the exit code turns `handled_once` and `first_connect_error` into the reference's fallback.

Backend answers are taken in their clean form `ListenOutcome`; `contract_iff` shows that these
are exactly the `ListenAttempt`s that keep the per-result contract the scan asserts.
-/

namespace DBus

/-! ## 1. Backend answers that keep the contract -/

/-- The per-result contract the scan asserts (lines 512-535): `OK` sets the server and leaves
the error clear, `BAD_ADDRESS` and `DID_NOT_CONNECT` leave the server `NULL` and set the error,
`NOT_HANDLED` leaves both alone. -/
def ListenAttempt.Contract (a : ListenAttempt) : Prop :=
  match a.result with
  | .ok => a.server.isSome ∧ a.error = none
  | .badAddress | .didNotConnect => a.server = none ∧ a.error.isSome
  | .notHandled => a.server = none ∧ a.error = none

/-- A backend's answer, in the form the contract allows. -/
inductive ListenOutcome
  | ok (server : Nat)
  | badAddress (e : DBusError)
  | notHandled
  | didNotConnect (e : DBusError)
  deriving DecidableEq, Repr

namespace ListenOutcome

/-- The `ListenAttempt` a backend leaves when it answers `o`. -/
def attempt : ListenOutcome → ListenAttempt
  | .ok s => ⟨.ok, some s, none⟩
  | .badAddress e => ⟨.badAddress, none, some e⟩
  | .notHandled => ⟨.notHandled, none, none⟩
  | .didNotConnect e => ⟨.didNotConnect, none, some e⟩

/-- A decisive answer ends the scan, with the server or the error it returns. -/
def decision : ListenOutcome → Option (Option Nat × Option DBusError)
  | .ok s => some (some s, none)
  | .badAddress e => some (none, some e)
  | _ => none

/-- The error of a `DID_NOT_CONNECT` answer. -/
def connectError : ListenOutcome → Option DBusError
  | .didNotConnect e => some e
  | _ => none

end ListenOutcome

/-- **The contract's attempts are exactly the clean answers.** -/
theorem contract_iff (a : ListenAttempt) : a.Contract ↔ ∃ o : ListenOutcome, o.attempt = a := by
  constructor
  · rcases a with ⟨r, _ | s, _ | e⟩ <;> cases r <;> simp [ListenAttempt.Contract] <;> first
      | exact ⟨.ok s, rfl⟩ | exact ⟨.badAddress e, rfl⟩ | exact ⟨.notHandled, rfl⟩
      | exact ⟨.didNotConnect e, rfl⟩
  · rintro ⟨o, rfl⟩
    cases o <;> simp [ListenOutcome.attempt, ListenAttempt.Contract]

/-! ## 2. The reference scan -/

/-- The order the scan visits attempts in: entry-major, backend-minor. -/
def scanOrder (funcs : List ListenFunc) (len : Nat) : List (Nat × ListenFunc) :=
  (List.range len).flatMap fun i => funcs.map (i, ·)

section Reference

variable (o : Nat → ListenFunc → ListenOutcome)

/-- The attempts a scan over `ps` makes: up to and including the first decisive one. -/
def upToDecisive : List (Nat × ListenFunc) → List (Nat × ListenFunc)
  | [] => []
  | p :: ps => p :: if (o p.1 p.2).decision.isSome then [] else upToDecisive ps

/-- **The reference scan** (spec §4.1): the server returned, the caller's `*error`, and the
attempts made.  The first decisive attempt decides; without one, the error is the first
`DID_NOT_CONNECT` error, else "unknown address type" for `entries[0]`, else "empty address". -/
def referenceListen (funcs : List ListenFunc) (address : String)
    (entries : List DBusAddressEntry) : Option Nat × Option DBusError × List (Nat × ListenFunc) :=
  let order := scanOrder funcs entries.length
  match order.findSome? (fun p => (o p.1 p.2).decision) with
  | some r => (r.1, r.2, upToDecisive o order)
  | none =>
    (none, some ((order.findSome? fun p => (o p.1 p.2).connectError).getD
      (match entries with
       | e :: _ => unknownAddressType e.method
       | [] => emptyAddress address)), order)

end Reference

/-! ## 3. One attempt, by answer -/

section Attempts

variable (nn : Bool) (i : Nat) (f : ListenFunc) (st : ListenState)

@[simp] theorem listenAttempt_ok (s : Nat) :
    listenAttempt nn i f (ListenOutcome.ok s).attempt st =
      .out { st with server := some s, invoked := st.invoked ++ [(i, f)], handledOnce := true } :=
  rfl

@[simp] theorem listenAttempt_badAddress (e : DBusError) :
    listenAttempt nn i f (ListenOutcome.badAddress e).attempt st =
      .out { ({ st with server := none, invoked := st.invoked ++ [(i, f)] }.moveError nn
        (some e)).1 with handledOnce := true } :=
  rfl

@[simp] theorem listenAttempt_notHandled :
    listenAttempt nn i f ListenOutcome.notHandled.attempt st =
      .next { st with server := none, invoked := st.invoked ++ [(i, f)] } :=
  rfl

@[simp] theorem listenAttempt_didNotConnect (e : DBusError) :
    listenAttempt nn i f (ListenOutcome.didNotConnect e).attempt st =
      .next (if st.firstConnectError.isNone then
          { st with
            server := none, invoked := st.invoked ++ [(i, f)],
            firstConnectError := some e, handledOnce := true }
        else
          { st with
            server := none, invoked := st.invoked ++ [(i, f)],
            freed := st.freed ++ [e], handledOnce := true }) := by
  by_cases h : st.firstConnectError.isNone <;> simp [listenAttempt, ListenOutcome.attempt,
    ListenState.check, ListenState.free, h]

end Attempts

/-! ## 4. The two loops are one loop over `scanOrder` -/

section Flat

variable (nn : Bool) (backend : Nat → ListenFunc → ListenAttempt)

/-- The scan as one loop over a list of attempts. -/
def scanFlat : List (Nat × ListenFunc) → ListenState → Flow ListenState
  | [], st => .next st
  | p :: ps, st =>
    match listenAttempt nn p.1 p.2 (backend p.1 p.2) st with
    | .next st => scanFlat ps st
    | .out st => .out st

theorem scanFlat_append (l₁ l₂ : List (Nat × ListenFunc)) (st : ListenState) :
    scanFlat nn backend (l₁ ++ l₂) st =
      match scanFlat nn backend l₁ st with
      | .next st => scanFlat nn backend l₂ st
      | .out st => .out st := by
  induction l₁ generalizing st with
  | nil => rfl
  | cons p ps ih =>
    simp only [List.cons_append, scanFlat]
    cases listenAttempt nn p.1 p.2 (backend p.1 p.2) st <;> simp [ih]

theorem listenEntry_eq_scanFlat (i : Nat) (fs : List ListenFunc) (st : ListenState) :
    listenEntry nn backend i fs st = scanFlat nn backend (fs.map (i, ·)) st := by
  induction fs generalizing st with
  | nil => rfl
  | cons f fs ih =>
    simp only [listenEntry, List.map_cons, scanFlat]
    cases listenAttempt nn i f (backend i f) st <;> simp [ih]

end Flat

/-- Nothing has been returned yet: `server` and `*error` are both clear. -/
def ListenState.Quiet (st : ListenState) : Prop := st.server = none ∧ st.error = none

section Contract

variable {nn : Bool} (o : Nat → ListenFunc → ListenOutcome)

/-- The backends of an assignment of clean answers. -/
def ListenOutcome.backend (o : Nat → ListenFunc → ListenOutcome) (i : Nat) (f : ListenFunc) :
    ListenAttempt :=
  (o i f).attempt

/-- A scan that has not stopped leaves `server` and `*error` clear. -/
theorem scanFlat_next_quiet {ps : List (Nat × ListenFunc)} {st st' : ListenState}
    (hq : st.Quiet) (h : scanFlat nn (ListenOutcome.backend o) ps st = .next st') : st'.Quiet := by
  induction ps generalizing st with
  | nil => cases h; exact hq
  | cons p ps ih =>
    simp only [scanFlat, ListenOutcome.backend] at h
    cases ho : o p.1 p.2 <;> simp only [ho, listenAttempt_ok, listenAttempt_badAddress,
      listenAttempt_notHandled, listenAttempt_didNotConnect] at h
    · cases h
    · cases h
    · exact (ih · h) ⟨rfl, hq.2⟩
    · split at h <;> exact (ih · h) ⟨rfl, hq.2⟩

theorem listenEntries_eq (funcs : List ListenFunc) (is : List Nat) {st : ListenState}
    (hq : st.Quiet) :
    listenEntries nn (ListenOutcome.backend o) funcs is st =
      scanFlat nn (ListenOutcome.backend o) (is.flatMap fun i => funcs.map (i, ·)) st := by
  induction is generalizing st with
  | nil => rfl
  | cons i is ih =>
    simp only [listenEntries, listenEntry_eq_scanFlat, List.flatMap_cons, scanFlat_append]
    cases h : scanFlat nn (ListenOutcome.backend o) (funcs.map (i, ·)) st with
    | next st' =>
      have hq' := scanFlat_next_quiet o hq h
      simp [ListenState.errorIsClear, hq'.1, hq'.2, ih hq']
    | out st' => rfl

end Contract

/-! ## 5. The flat loop against the reference -/

section Characterize

variable (o : Nat → ListenFunc → ListenOutcome)

/-- A decisive answer is a server with a clear error, or no server with an error. -/
theorem ListenOutcome.decision_cases {a : ListenOutcome} {r : Option Nat × Option DBusError}
    (h : a.decision = some r) : (∃ s, r = (some s, none)) ∨ ∃ e, r = (none, some e) := by
  cases a <;> simp [ListenOutcome.decision] at h <;> subst h <;> simp

/-- **The scan stops at the first decisive attempt**, having made exactly the attempts up to
it, and returns what that attempt decided.  `first_connect_error` then holds the first connect
error among those attempts, and no assertion has failed. -/
theorem scanFlat_decisive {ps : List (Nat × ListenFunc)} {st : ListenState} (hq : st.Quiet)
    {r : Option Nat × Option DBusError}
    (h : ps.findSome? (fun p => (o p.1 p.2).decision) = some r) :
    ∃ st', scanFlat true (ListenOutcome.backend o) ps st = .out st' ∧ st'.server = r.1 ∧
      st'.error = r.2 ∧ st'.invoked = st.invoked ++ upToDecisive o ps ∧ st'.handledOnce = true ∧
      st'.firstConnectError = st.firstConnectError.or
        ((upToDecisive o ps).findSome? fun p => (o p.1 p.2).connectError) ∧
      st'.failed = st.failed := by
  induction ps generalizing st with
  | nil => cases h
  | cons p ps ih =>
    rw [List.findSome?_cons] at h
    simp only [scanFlat, ListenOutcome.backend, upToDecisive]
    cases ho : o p.1 p.2 with
    | ok s =>
      simp only [ho, ListenOutcome.decision, Option.some.injEq] at h
      subst h
      simp [ListenOutcome.decision, ListenOutcome.connectError, List.findSome?_cons, ho, hq.2]
    | badAddress e =>
      simp only [ho, ListenOutcome.decision, Option.some.injEq] at h
      subst h
      simp [ListenOutcome.decision, ListenOutcome.connectError, List.findSome?_cons, ho,
        ListenState.moveError, hq.2]
    | notHandled =>
      simp only [ho, ListenOutcome.decision] at h
      obtain ⟨st', h1, h2, h3, h4, h5, h6, h7⟩ := ih (⟨rfl, hq.2⟩ : ListenState.Quiet { st with
        server := none, invoked := st.invoked ++ [(p.1, p.2)] }) h
      exact ⟨st', by simpa using h1, h2, h3, by simp [h4, ListenOutcome.decision], h5,
        by simp [h6, List.findSome?_cons, ho, ListenOutcome.decision, ListenOutcome.connectError], h7⟩
    | didNotConnect e =>
      simp only [ho, ListenOutcome.decision] at h
      simp only [listenAttempt_didNotConnect, ListenOutcome.decision]
      split
      all_goals
        obtain ⟨st', h1, h2, h3, h4, h5, h6, h7⟩ := ih (⟨rfl, hq.2⟩ : ListenState.Quiet
          ⟨none, st.error, _, true, st.invoked ++ [(p.1, p.2)], _, st.failed, st.entriesFreed⟩) h
        refine ⟨st', h1, h2, h3, by simp [h4], h5, ?_, h7⟩
        rw [h6]
        cases hf : st.firstConnectError <;> simp_all [ListenOutcome.connectError]

/-- **With no decisive attempt the scan runs to the end**, having made every attempt, and keeps
the first `DID_NOT_CONNECT` error in `first_connect_error`; `handled_once` records whether there
was one, and no assertion has failed. -/
theorem scanFlat_exhausted {ps : List (Nat × ListenFunc)} {st : ListenState} (hq : st.Quiet)
    (h : ps.findSome? (fun p => (o p.1 p.2).decision) = none) :
    ∃ st', scanFlat true (ListenOutcome.backend o) ps st = .next st' ∧ st'.Quiet ∧
      st'.invoked = st.invoked ++ ps ∧
      st'.firstConnectError =
        st.firstConnectError.or (ps.findSome? fun p => (o p.1 p.2).connectError) ∧
      st'.handledOnce =
        (st.handledOnce || (ps.findSome? fun p => (o p.1 p.2).connectError).isSome) ∧
      st'.failed = st.failed := by
  induction ps generalizing st with
  | nil => exact ⟨st, rfl, hq, by simp, by simp, by simp, rfl⟩
  | cons p ps ih =>
    rw [List.findSome?_cons] at h
    simp only [scanFlat, ListenOutcome.backend, List.findSome?_cons]
    cases ho : o p.1 p.2 with
    | ok s => simp [ho, ListenOutcome.decision] at h
    | badAddress e => simp [ho, ListenOutcome.decision] at h
    | notHandled =>
      simp only [ho, ListenOutcome.decision] at h
      obtain ⟨st', h1, h2, h3, h4, h5, h6⟩ := ih (⟨rfl, hq.2⟩ : ListenState.Quiet { st with
        server := none, invoked := st.invoked ++ [(p.1, p.2)] }) h
      exact ⟨st', by simpa using h1, h2, by simp [h3], by simp [h4, ListenOutcome.connectError],
        by simp [h5, ListenOutcome.connectError], h6⟩
    | didNotConnect e =>
      simp only [ho, ListenOutcome.decision] at h
      simp only [listenAttempt_didNotConnect, ListenOutcome.connectError]
      split
      all_goals
        obtain ⟨st', h1, h2, h3, h4, h5, h6⟩ := ih (⟨rfl, hq.2⟩ : ListenState.Quiet ⟨none, st.error,
          _, true, st.invoked ++ [(p.1, p.2)], _, st.failed, st.entriesFreed⟩) h
        refine ⟨st', h1, h2, by simp [h3], ?_, by simp [h5], h6⟩
        rw [h4]
        cases hf : st.firstConnectError <;> simp_all

end Characterize

/-! ## 6. The exit code -/

section Out

variable (address : String) (entries : List DBusAddressEntry) {st : ListenState}

/-- **Once something handled the address**, the exit code returns the scan's server, and
`*error` is what the scan put there or, failing that, `first_connect_error`. -/
theorem listenOut_handled (hh : st.handledOnce = true) :
    (listenOut true address entries st).1 = st.server ∧
      (listenOut true address entries st).2.invoked = st.invoked ∧
      (listenOut true address entries st).2.error =
        if st.server.isNone && st.error.isNone then st.firstConnectError else st.error := by
  cases hs : st.server <;> cases he : st.error <;>
    simp [listenOut, hh, hs, he, ListenState.moveError, ListenState.check_eq]

/-- The exit after an `OK`: `first_connect_error` is left where it is, and no assertion fails. -/
theorem listenOut_of_server {s : Nat} (hh : st.handledOnce = true) (hs : st.server = some s)
    (he : st.error = none) :
    (listenOut true address entries st).2.firstConnectError = st.firstConnectError ∧
      (listenOut true address entries st).2.failed = st.failed := by
  simp [listenOut, hh, hs, he, ListenState.check_eq, ListenState.errorIsClear]

/-- The exit after a `BAD_ADDRESS`: `first_connect_error` is left where it is, and "be sure we
freed it" (line 588) fails if it is set. -/
theorem listenOut_of_error {e : DBusError} (hh : st.handledOnce = true) (hs : st.server = none)
    (he : st.error = some e) :
    (listenOut true address entries st).2.firstConnectError = st.firstConnectError ∧
      (listenOut true address entries st).2.failed =
        st.failed ++ if st.firstConnectError.isSome then [.connectFreed] else [] := by
  cases hf : st.firstConnectError <;>
    simp [listenOut, hh, hs, he, hf, ListenState.check_eq, ListenState.errorIsSet]

/-- The exit after a scan that only failed to connect: `first_connect_error` moves into `*error`,
and no assertion fails. -/
theorem listenOut_of_connect {e : DBusError} (hh : st.handledOnce = true) (hq : st.Quiet)
    (hf : st.firstConnectError = some e) :
    (listenOut true address entries st).2.firstConnectError = none ∧
      (listenOut true address entries st).2.failed = st.failed := by
  simp [listenOut, hh, hq.1, hq.2, hf, ListenState.moveError, ListenState.check_eq,
    ListenState.errorIsSet]

/-- **When nothing handled the address** the exit code reports the unknown-type or
empty-address error, and fails no assertion if `first_connect_error` is clear. -/
theorem listenOut_unhandled (hh : st.handledOnce = false) (hq : st.Quiet) :
    (listenOut true address entries st).1 = none ∧
      (listenOut true address entries st).2.invoked = st.invoked ∧
      (listenOut true address entries st).2.error = some (unhandledError address entries) ∧
      (listenOut true address entries st).2.firstConnectError = st.firstConnectError ∧
      (listenOut true address entries st).2.failed = st.failed ++
        if st.firstConnectError.isSome then [.connectFreed] else [] := by
  cases hf : st.firstConnectError <;>
    simp [listenOut, hh, hq.1, hq.2, hf, ListenState.setError, ListenState.errorIsClear,
      ListenState.errorIsSet, ListenState.check_eq]

end Out

/-! ## 7. `dbus_server_listen` is the reference scan -/

/-- **`dbus_server_listen` with a non-`NULL` error argument is the reference scan.**  For every
entry list, every build of `listen_funcs` and every assignment of contract-keeping answers to
the attempts, the server returned, the caller's `*error` and the backend calls made are those
of `referenceListen`: no backend is called after the first `OK` or `BAD_ADDRESS`, that attempt
decides, and otherwise the first `DID_NOT_CONNECT` error, or the unknown-type or empty-address
error, is reported.  In particular a server is never returned together with an error. -/
theorem dbusServerListen_eq_reference (buildTests : Bool) (o : Nat → ListenFunc → ListenOutcome)
    (address : String) (entries : List DBusAddressEntry) :
    let r := dbusServerListen buildTests (ListenOutcome.backend o) address (.ok entries) (some none)
    (r.1, r.2.error, r.2.invoked) = referenceListen o (listenFuncs buildTests) address entries := by
  have hq : ListenState.Quiet ⟨none, none, none, false, [], [], [], 0⟩ := ⟨rfl, rfl⟩
  simp only [dbusServerListen, Option.join, Option.some_bind, id_eq, Option.isSome_some,
    Option.isSome_none, Bool.false_eq_true, if_false, referenceListen]
  rw [listenEntries_eq o _ _ hq]
  change listenOut true address entries (scanFlat true _ (scanOrder (listenFuncs buildTests)
    entries.length) _).get |> fun r => (r.1, r.2.error, r.2.invoked) = _
  cases hd : (scanOrder (listenFuncs buildTests) entries.length).findSome?
      (fun p => (o p.1 p.2).decision) with
  | some r =>
    obtain ⟨st', h1, h2, h3, h4, h5, -⟩ := scanFlat_decisive o hq hd
    obtain ⟨r1, r2, r3⟩ := listenOut_handled address entries h5
    obtain ⟨p, -, hp⟩ := List.exists_of_findSome?_eq_some hd
    rw [h1]
    rcases ListenOutcome.decision_cases hp with ⟨s, rfl⟩ | ⟨e, rfl⟩ <;>
      simp_all [Flow.get]
  | none =>
    obtain ⟨st', h1, hq', h4, h5, h6, -⟩ := scanFlat_exhausted o hq hd
    rw [h1]
    cases hc : (scanOrder (listenFuncs buildTests) entries.length).findSome?
        (fun p => (o p.1 p.2).connectError) with
    | none =>
      obtain ⟨r1, r2, r3, -⟩ := listenOut_unhandled address entries (by simpa [hc] using h6) hq'
      cases entries <;> simp_all [Flow.get, unhandledError]
    | some e =>
      obtain ⟨r1, r2, r3⟩ := listenOut_handled address entries (by simpa [hc] using h6)
      simp_all [Flow.get, hq'.1, hq'.2]

end DBus
