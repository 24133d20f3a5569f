import DBus.Listen.Scan
/-
# Where the backends' `DBusError`s go

Every `DBusError` a backend sets must end in exactly one place: moved into the caller's
`*error`, freed, or (when the caller passed `NULL`) freed by `dbus_move_error`.  The exit code
checks this for the failure return (`_DBUS_ASSERT_ERROR_IS_CLEAR (&first_connect_error)`,
"be sure we freed it", line 588) but never frees `first_connect_error` itself on the two paths
that `goto out` after it was filled:

* a `DID_NOT_CONNECT` on one attempt and an `OK` on a later one: the server is returned and the
  first connect error is never released;
* a `DID_NOT_CONNECT` and then a `BAD_ADDRESS` with a non-`NULL` `error`: the bad-address error
  is returned, `first_connect_error` stays set, and the assertion of line 588 fails.

The two runs below show one instance of each; the last theorem gives the law for every scan.
-/

namespace DBus

/-- The connect failure of the first entry in the two runs below. -/
def addressInUse : DBusError :=
  ⟨"org.freedesktop.DBus.Error.AddressInUse", "Address already in use"⟩

/-- **`first_connect_error` is leaked, or trips its own assertion.**  Two `tcp` entries; the
socket backend cannot bind the first and accepts the second (left), or rejects the second's
parameters (right).  Left: the server is returned with `first_connect_error` still holding the
first error and nothing freed.  Right: the second error is returned, the first is still held,
and the assertion "be sure we freed it" fails. -/
theorem dbusServerListen_first_connect_error_not_freed :
    dbusServerListen false (ListenOutcome.backend fun i f =>
        if f = .socket then (if i = 0 then .didNotConnect addressInUse else .ok 1)
        else .notHandled)
      "tcp:port=1234;tcp:port=5678" (.ok [⟨"tcp"⟩, ⟨"tcp"⟩]) (some none) =
      (some 1, ⟨some 1, none, some addressInUse, true,
        [(0, .socket), (0, .platformSpecific), (1, .socket)], [], [], 1⟩) ∧
    dbusServerListen false (ListenOutcome.backend fun i f =>
        if f = .socket then
          (if i = 0 then .didNotConnect addressInUse else .badAddress (unknownAddressType "x"))
        else .notHandled)
      "tcp:port=1234;tcp:port=5678" (.ok [⟨"tcp"⟩, ⟨"tcp"⟩]) (some none) =
      (none, ⟨none, some (unknownAddressType "x"), some addressInUse, true,
        [(0, .socket), (0, .platformSpecific), (1, .socket)], [], [.connectFreed], 1⟩) :=
  ⟨rfl, rfl⟩

/-- **Where `first_connect_error` ends, in every scan.**  With a non-`NULL` `error`, for every
entry list, build of `listen_funcs` and assignment of contract-keeping answers: when an `OK` or
`BAD_ADDRESS` attempt decides the scan, `first_connect_error` still holds at the return the first
connect error among the attempts before it, neither freed nor returned; when no attempt decides,
it ends clear.  The one assertion that fails is "be sure we freed it" (line 588), exactly when no
server is returned and `first_connect_error` is still set. -/
theorem dbusServerListen_first_connect_error_left (buildTests : Bool)
    (o : Nat → ListenFunc → ListenOutcome) (address : String) (entries : List DBusAddressEntry) :
    let order := scanOrder (listenFuncs buildTests) entries.length
    let r := dbusServerListen buildTests (ListenOutcome.backend o) address (.ok entries) (some none)
    r.2.firstConnectError =
        (if (order.findSome? fun p => (o p.1 p.2).decision).isSome then
          (upToDecisive o order).findSome? fun p => (o p.1 p.2).connectError
        else none) ∧
      r.2.failed = if r.1.isNone && r.2.firstConnectError.isSome then [.connectFreed] else [] := by
  have hq : ListenState.Quiet ⟨none, none, none, false, [], [], [], 0⟩ := ⟨rfl, rfl⟩
  simp only [dbusServerListen, Option.join, Option.some_bind, id_eq, Option.isSome_some,
    Option.isSome_none, Bool.false_eq_true, if_false]
  rw [listenEntries_eq o _ _ hq, show (List.range entries.length).flatMap
    (fun i => (listenFuncs buildTests).map (i, ·)) = scanOrder (listenFuncs buildTests)
      entries.length from rfl]
  cases hd : (scanOrder (listenFuncs buildTests) entries.length).findSome?
      (fun p => (o p.1 p.2).decision) with
  | some d =>
    obtain ⟨st', hrun, hs, he, -, hh, hf, hfl⟩ := scanFlat_decisive o hq hd
    obtain ⟨p, -, hp⟩ := List.exists_of_findSome?_eq_some hd
    obtain ⟨hret, -, -⟩ := listenOut_handled address entries hh
    simp only [Option.none_or] at hf hfl
    rw [hrun, Flow.get]
    rcases ListenOutcome.decision_cases hp with ⟨s, rfl⟩ | ⟨e, rfl⟩
    · -- `OK`: the server is returned
      obtain ⟨e1, e2⟩ := listenOut_of_server address entries hh hs he
      simp [hret, e1, e2, hs, hf, hfl]
    · -- `BAD_ADDRESS`: its error is returned
      obtain ⟨e1, e2⟩ := listenOut_of_error address entries hh hs he
      have hb : ((listenOut true address entries st').1.isNone &&
          (listenOut true address entries st').2.firstConnectError.isSome) =
          st'.firstConnectError.isSome := by simp [hret, e1, hs]
      rw [hb]
      simp [e1, e2, hf, hfl]
  | none =>
    obtain ⟨st', hrun, hq', -, hf, hh, hfl⟩ := scanFlat_exhausted o hq hd
    simp only [Option.none_or, Bool.false_or] at hf hh
    rw [hrun, Flow.get]
    cases hc : (scanOrder (listenFuncs buildTests) entries.length).findSome?
        (fun p => (o p.1 p.2).connectError) with
    | none =>
      obtain ⟨hret, -, -, e1, e2⟩ := listenOut_unhandled address entries (by simpa [hc] using hh) hq'
      simp [hret, e1, e2, hf, hc, hfl]
    | some e =>
      obtain ⟨e1, e2⟩ := listenOut_of_connect address entries (by simpa [hc] using hh) hq'
        (hf.trans hc)
      simp [e1, e2, hfl]

end DBus
