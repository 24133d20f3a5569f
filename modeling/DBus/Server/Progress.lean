import DBus.Server.Locking
/-
# Who can move: the lock is the only wait, and it never deadlocks

A function of `dbus-server.c` waits only at `SERVER_LOCK`.  Everything else a thread does inside
the server runs on without waiting: the unlocked steps of `dbus_server_disconnect`, the returns
of the call-outs, `vtable->finalize`.  So a thread inside the server can move as soon as it can
have the lock: when the lock is free, or when the code it is in holds the lock already
(`TStep.exists_of_top`).

Together with the lock invariant (`Sys.LockInv`) this rules out a deadlock: the holder of the
lock is always in locked code, so in the runs whose calls give the lock back some thread inside
the server can always take a step that waits for no call from the application
(`server_never_deadlocks`), and no two threads are in locked code at once while the server is
alive (`locked_code_exclusive`).  A failed copy in `dbus_server_set_auth_mechanisms` breaks the
first half: it leaves the lock with a thread that has returned to the application, and the
thread's next call into the server waits for ever (`set_auth_failure_deadlocks`).
-/

namespace DBus

/-! ## 1. What a thread inside the server can do next -/

section Enabled

variable {allowed : Op → Prop} {t H : Nat} {s : DBusServer} {tr : Trace} {th : Thread}

/-- **Every frame has a next step once it can have the lock**: with the lock free, or in code
that holds it already.  The step is the server's own code or the return of a call-out; it needs
no call from the application. -/
theorem TStep.exists_of_top {f : Frame} {st : List Frame} (hs : th.stack = f :: st)
    (hl : s.lock = none ∨ f.locked) : ∃ s' tr' th', TStep allowed t H s tr th s' tr' th' := by
  obtain ⟨stack, held⟩ := th
  subst hs
  have free : f.locked = false → s.lock = none := fun hf => hl.resolve_right (by simp [hf])
  cases f with
  | disconnect pc =>
    cases pc with
    | lock =>
      cases hd : s.disconnected
      · exact ⟨_, _, _, .disconnectFirst (free rfl) hd⟩
      · exact ⟨_, _, _, .disconnectAgain (free rfl) hd⟩
    | vtable => exact ⟨_, _, _, .vtableDone⟩
    | unlock => exact ⟨_, _, _, .disconnectUnlock⟩
    | unref => exact ⟨_, _, _, .disconnectUnref⟩
  | caller k c locked =>
    cases locked
    · exact ⟨_, _, _, .callerLock (free rfl)⟩
    · exact ⟨_, _, _, .callerUnlock⟩
  | change k c pc =>
    cases pc with
    | entry =>
      cases hk : s.list k
      · exact ⟨_, _, _, .changeDetached hk⟩
      · exact ⟨_, _, _, .changeAttached hk⟩
    | callout l => exact ⟨_, _, _, .changeReturn true⟩
    | relock l r => exact ⟨_, _, _, .changeRelock (free rfl)⟩
  | setFunctions k fns pc =>
    cases pc with
    | lock =>
      cases hk : s.list k
      · exact ⟨_, _, _, .setFunctionsDetached (free rfl) hk⟩
      · exact ⟨_, _, _, .setFunctionsAttached (free rfl) hk⟩
    | callout l => exact ⟨_, _, _, .setFunctionsReturn true⟩
    | relock l r => exact ⟨_, _, _, .setFunctionsRelock (free rfl)⟩
  | setNewConnection cb freeing =>
    cases freeing
    · cases hf : s.newConnection.free
      · exact ⟨_, _, _, .setNewConnectionNoFree (free rfl) hf⟩
      · exact ⟨_, _, _, .setNewConnectionFree (free rfl) hf⟩
    · exact ⟨_, _, _, .setNewConnectionReturn⟩
  | setData slot e ok freeing =>
    cases freeing
    · cases hs : (setDataLocked slot e ok s).2 with
      | none => exact ⟨_, _, _, .setDataFailed (free rfl) hs⟩
      | some old =>
        cases hf : old.free
        · exact ⟨_, _, _, .setDataNoFree (free rfl) hs hf⟩
        · exact ⟨_, _, _, .setDataFree (free rfl) hs hf⟩
    · exact ⟨_, _, _, .setDataReturn⟩
  | setAuthMechanisms m ok => exact ⟨_, _, _, .setAuth (free rfl)⟩
  | finalize rest =>
    cases rest
    · exact ⟨_, _, _, .finalizeSlots⟩
    · exact ⟨_, _, _, .finalizeRest (free rfl)⟩

/-- A thread at the `SERVER_LOCK` of `dbus_server_disconnect` moves only once the lock is free. -/
theorem TStep.lock_free_at_disconnect {s' : DBusServer} {tr' : Trace} {th' : Thread}
    {l : List Frame} (h : TStep allowed t H s tr th s' tr' th')
    (hs : th.stack = .disconnect .lock :: l) : s.lock = none := by
  obtain ⟨stack, held⟩ := th
  subst hs
  cases h
  case disconnectFirst hl _ | disconnectAgain hl _ => exact hl
  all_goals contradiction

end Enabled

/-- The lock is only ever held by one of the threads. -/
theorem Reach.lock_lt {allowed : Op → Prop} {n : Nat} {σ₀ σ : Sys n} (h : Reach allowed σ₀ σ)
    {t : Nat} (ht : σ.srv.lock = some t) : t < n := by
  induction h generalizing t with
  | init h => rw [h.unlocked] at ht; cases ht
  | step _ hs ih =>
    cases hs with
    | thread i h =>
      rcases h.lock_cases with he | ⟨-, he⟩ | ⟨he, -⟩ <;> rw [he] at ht
      · exact ih ht
      · cases ht; exact i.isLt
      · cases ht
    | give => exact ih ht

/-! ## 2. No deadlock, and mutual exclusion -/

/-- **No deadlock.**  In every state of every run whose calls give the lock back, while some
thread is inside the server, some thread inside it can take a step that waits for no call from
the application: the holder of the lock, or, with the lock free, any thread inside. -/
theorem server_never_deadlocks {allowed : Op → Prop} {n : Nat} {σ₀ σ : Sys n}
    (hA : ∀ op, allowed op → op.releasesLock) (h : Reach allowed σ₀ σ) {i : Fin n}
    (hi : (σ.threads i).stack ≠ []) :
    ∃ j : Fin n, (σ.threads j).stack ≠ [] ∧ ∃ srv' tr' th',
      TStep (fun _ => False) j.val σ.heldTotal σ.srv σ.tr (σ.threads j) srv' tr' th' := by
  cases hl : σ.srv.lock with
  | none =>
    obtain ⟨f, st, hst⟩ := List.exists_cons_of_ne_nil hi
    exact ⟨i, hi, TStep.exists_of_top hst (.inl hl)⟩
  | some t =>
    -- the holder is a thread in locked code
    let j : Fin n := ⟨t, h.lock_lt hl⟩
    have hj : lockedTop (σ.threads j).stack := (h.lockInv hA).owner j hl
    cases hst : (σ.threads j).stack with
    | nil => rw [hst] at hj; cases hj
    | cons f st =>
      rw [hst, lockedTop_cons] at hj
      exact ⟨j, by simp [hst], TStep.exists_of_top hst (.inr hj)⟩

/-- The theorem on a thread that has entered `_dbus_server_add_watch` under the lock. -/
theorem server_never_deadlocks_add_watch :
    ∃ σ : Sys 1, Reach (fun op => op.releasesLock) (Sys.fresh 1) σ ∧
      ∃ j : Fin 1, (σ.threads j).stack ≠ [] ∧ ∃ srv' tr' th',
        TStep (fun _ => False) j.val σ.heldTotal σ.srv σ.tr (σ.threads j) srv' tr' th' := by
  have r0 : Reach (fun op => op.releasesLock) (Sys.fresh 1) (Sys.fresh 1) :=
    .init (Sys.fresh_init Nat.one_pos)
  have r1 := r0.step (.thread 0 (.call (.caller .watch (.add 1)) rfl rfl rfl (by decide)))
  have r2 := r1.step (.thread 0 (.callerLock rfl))
  exact ⟨_, r2, server_never_deadlocks (fun _ h => h) r2 (i := 0) (by decide)⟩

/-- **Mutual exclusion.**  In every state of every run whose calls give the lock back, while the
count is positive, at most one thread is in code that runs with the lock held. -/
theorem locked_code_exclusive {allowed : Op → Prop} {n : Nat} {σ₀ σ : Sys n}
    (hA : ∀ op, allowed op → op.releasesLock) (h : Reach allowed σ₀ σ)
    (hr : 0 < σ.srv.refcount) {i j : Fin n} (hi : lockedTop (σ.threads i).stack)
    (hj : lockedTop (σ.threads j).stack) : i = j := by
  have hL := h.lockInv hA
  have hF : ¬σ.tr.finalizes ≠ [] := not_not.2 (h.inv.finalizes_nil hr)
  have hi' := (hL.holder i hi).resolve_right hF
  have hj' := (hL.holder j hj).resolve_right hF
  exact Fin.ext (Option.some_injective _ (hi'.symm.trans hj'))

/-- The theorem on two threads: thread 0 is in `protected_change_watch`, called under the lock,
and thread 1 has called `dbus_server_disconnect` and waits at its `SERVER_LOCK`.  Every thread in
locked code is thread 0. -/
theorem locked_code_exclusive_add_watch :
    ∃ σ : Sys 2, Reach (fun op => op.releasesLock) (Sys.fresh 2) σ ∧ 0 < σ.srv.refcount ∧
      lockedTop (σ.threads 0).stack ∧ (σ.threads 1).stack = [.disconnect .lock] ∧
      ∀ j, lockedTop (σ.threads j).stack → j = 0 := by
  have r0 : Reach (fun op => op.releasesLock) (Sys.fresh 2) (Sys.fresh 2) :=
    .init (Sys.fresh_init (by decide))
  have r1 := r0.step (.thread 0 (.call (.caller .watch (.add 1)) rfl rfl rfl (by decide)))
  have r2 := r1.step (.thread 0 (.callerLock rfl))
  have r3 := r2.step (.thread 1 (.call .disconnect rfl rfl rfl (by decide)))
  exact ⟨_, r3, by decide, rfl, rfl,
    fun j hj => locked_code_exclusive (fun _ h => h) r3 (by decide) hj rfl⟩

/-! ## 3. The deadlock a failed copy leaves -/

/-- **A failed copy in `dbus_server_set_auth_mechanisms` deadlocks the server.**  One thread holds
the only reference.  It calls `dbus_server_set_auth_mechanisms` with a copy that fails, which
returns `FALSE` with the lock held, and then `dbus_server_disconnect`, which waits at its
`SERVER_LOCK` for the lock its own thread holds: no step of any kind is possible any more, for
any calls the application may make. -/
theorem set_auth_failure_deadlocks :
    ∃ σ : Sys 1, Reach (fun _ => True) (Sys.fresh 1) σ ∧ (σ.threads 0).stack ≠ [] ∧
      ∀ σ', ¬Step (fun _ => True) σ σ' := by
  have r0 : Reach (fun _ => True) (Sys.fresh 1) (Sys.fresh 1) := .init (Sys.fresh_init Nat.one_pos)
  have r1 := r0.step (.thread 0
    (.call (.setAuthMechanisms (some []) false) trivial rfl rfl (by decide)))
  have r2 := r1.step (.thread 0 (.setAuth rfl))
  have r3 := r2.step (.thread 0 (.call .disconnect trivial rfl rfl (by decide)))
  refine ⟨_, r3, by decide, fun σ' hs => ?_⟩
  cases hs with
  | thread i h =>
    have := h.lock_free_at_disconnect (l := []) (by rw [Fin.fin_one_eq_zero i]; rfl)
    cases this
  | give i j hij => exact hij (Subsingleton.elim i j)

end DBus
