import DBus.Server.Lifetime
/-
# The server lock

`SERVER_LOCK` and `SERVER_UNLOCK` bracket every access to the record, and the object never calls
out of itself with the lock held: it detaches what the call-out needs, unlocks, calls, and locks
again.  The helpers `protected_change_*`, `_dbus_server_ref_unlocked` and
`_dbus_server_unref_unlocked` check the other half with `HAVE_LOCK_CHECK`: their caller holds
the lock.

Both halves follow from one invariant on who holds the lock (`Sys.LockInv`): the holder's top
frame is code that runs locked, and a thread whose top frame runs locked holds the lock, unless
the server is already finalized.  It holds in the runs where every call gives the lock back.  One
call does not: `dbus_server_set_auth_mechanisms` returns `FALSE` from inside its critical
section when `_dbus_dup_string_array` fails (line 969), and the runs through it break both
halves.

The invariant speaks of the lock's holder, and `vtable->finalize` is never called by it.  It can
be called while ANOTHER thread holds the lock: a thread whose call-out releases its own reference
goes on in the server, and `_dbus_assert (!server->have_server_lock)` at the start of
`_dbus_server_finalize_base` then fails (`finalize_while_caller_holds_lock`).
-/

namespace DBus

/-! ## 1. The calls that give the lock back -/

/-- Every call but `dbus_server_set_auth_mechanisms` with a failing copy of its array. -/
def Op.releasesLock : Op → Bool
  | .setAuthMechanisms (some _) false => false
  | _ => true

/-- The frame of such a call. -/
def Frame.releasesLock : Frame → Bool
  | .setAuthMechanisms (some _) false => false
  | _ => true

theorem Op.releasesLock_frame {op : Op} {f : Frame} (h : op.frame = some f)
    (hr : op.releasesLock) : f.releasesLock := by
  cases op <;> simp only [Op.frame, Option.some.injEq, reduceCtorEq] at h <;> subst h
  case setAuthMechanisms m ok => cases m <;> cases ok <;> simp_all [Op.releasesLock, Frame.releasesLock]
  all_goals rfl

/-- What stands below a helper caller, a call-out or the frame of an application call is not
locked code. -/
theorem lockedTop_below {f : Frame} {st : List Frame} (h : shaped (f :: st))
    (hf : ∀ g, f.under g = g.all Frame.callout) : lockedTop st = false := by
  match st, h with
  | [], _ => rfl
  | g :: _, h =>
    simp only [shaped, hf, List.head?_cons, Option.all_some, Bool.and_eq_true] at h
    exact (Frame.callout_kind h.1).2.1

/-- What stands below `protected_change_*` is locked code. -/
theorem lockedTop_below_change {k : ListKind} {c : Change} {pc : ChangePc} {st : List Frame}
    (h : shaped (.change k c pc :: st)) : lockedTop st = true := by
  match st, h with
  | g :: _, h =>
    simp only [shaped, Frame.under, List.head?_cons, Option.any_some, Bool.and_eq_true] at h
    exact (Frame.callsHelper_kind h.1).2.1

/-! ## 2. What one thread's step does to the lock -/

section Effects

variable {allowed : Op → Prop} {t H : Nat} {s s' : DBusServer} {tr tr' : Trace}
  {th th' : Thread}

/-- A step leaves the lock alone, takes it for its own thread, or releases it from locked
code. -/
theorem TStep.lock_cases (h : TStep allowed t H s tr th s' tr' th') :
    s'.lock = s.lock ∨ (s.lock = none ∧ s'.lock = some t) ∨
      (s'.lock = none ∧ lockedTop th.stack) := by
  cases h
  case disconnectFirst hl _ | disconnectAgain hl _ | callerLock hl => exact .inr (.inl ⟨hl, by simp⟩)
  case disconnectUnlock | callerUnlock => exact .inr (.inr ⟨rfl, rfl⟩)
  case changeAttached hl => exact .inr (.inr ⟨by simp [protectedChangeEntry_of_some hl], rfl⟩)
  case changeRelock hl => cases hu : lastUnref s <;> simp [hu, hl]
  case setAuth hl => rw [dbusServerSetAuthMechanisms_lock]; split <;> simp [hl]
  all_goals (left; simp [protectedChangeEntry_of_none, *])

/-- **What one step does to the lock and to the thread's locked code**, for a thread whose calls
give the lock back: neither changes; or the thread takes the lock, or keeps it, in locked code;
or it releases the lock and leaves locked code; or `_dbus_server_finalize_base` returns, without
the lock, to the code that dropped the last reference. -/
theorem TStep.lock_top_cases (h : TStep allowed t H s tr th s' tr' th')
    (hr : ∀ f ∈ th.stack, f.releasesLock) (hs : shaped th.stack) :
    (s'.lock = s.lock ∧ lockedTop th'.stack = lockedTop th.stack) ∨
    (s.lock = none ∧ s'.lock = some t ∧ lockedTop th'.stack) ∨
    (s'.lock = none ∧ lockedTop th.stack ∧ lockedTop th'.stack = false) ∨
    (s'.lock = none ∧ finalizeTop th.stack) := by
  cases h
  case ref => exact .inl ⟨rfl, rfl⟩
  case unref hc _ _ =>
    exact .inl ⟨rfl, by cases lastUnref s <;> simp [(canCall_tops hc).2.1, Frame.locked]⟩
  case call _ hf hc _ =>
    exact .inl ⟨rfl, by simp [(Op.frame_fresh hf).2.2.1, (canCall_tops hc).2.1]⟩
  case disconnectFirst hl _ | disconnectAgain hl _ | callerLock hl =>
    exact .inr (.inl ⟨hl, by simp, rfl⟩)
  case disconnectUnlock => exact .inr (.inr (.inl ⟨rfl, rfl, rfl⟩))
  case callerUnlock => exact .inr (.inr (.inl ⟨rfl, rfl, lockedTop_below hs fun _ => rfl⟩))
  case disconnectUnref =>
    exact .inl ⟨rfl, by cases lastUnref s <;> simp [lockedTop_below hs fun _ => rfl, Frame.locked]⟩
  case changeAttached hl =>
    exact .inr (.inr (.inl ⟨by simp [protectedChangeEntry_of_some hl], rfl, rfl⟩))
  case changeDetached hl =>
    exact .inl ⟨by simp [protectedChangeEntry_of_none hl], lockedTop_below_change hs⟩
  case changeRelock hl =>
    cases hu : lastUnref s
    · exact .inr (.inl ⟨hl, by simp [hu], by simpa using lockedTop_below_change hs⟩)
    · exact .inl ⟨by simp [hu, hl], by simp [Frame.locked]⟩
  case setAuth m ok hl =>
    have hm : (m.isSome && !ok) = false := by
      have := hr _ (List.mem_cons_self _ _)
      cases m <;> cases ok <;> simp_all [Frame.releasesLock]
    exact .inl ⟨by simp [dbusServerSetAuthMechanisms_lock, hm], lockedTop_below hs fun _ => rfl⟩
  case finalizeRest hl => exact .inr (.inr (.inr ⟨by simp [hl], rfl⟩))
  all_goals
    first
    | exact .inl ⟨by simp, rfl⟩
    | exact .inl ⟨by simp, lockedTop_below hs fun _ => rfl⟩

/-- **The stepping thread keeps both halves of the lock invariant**: it holds the lock only in
locked code, and in locked code it holds the lock, unless `F` (in use: the server is already
finalized, which a thread in `vtable->finalize` witnesses). -/
theorem TStep.lock_own {F : Prop} (h : TStep allowed t H s tr th s' tr' th')
    (hr : ∀ f ∈ th.stack, f.releasesLock) (hs : shaped th.stack)
    (h1 : s.lock = some t → lockedTop th.stack) (h2 : lockedTop th.stack → s.lock = some t ∨ F)
    (hfin : finalizeTop th.stack → F) :
    (s'.lock = some t → lockedTop th'.stack) ∧ (lockedTop th'.stack → s'.lock = some t ∨ F) := by
  rcases h.lock_top_cases hr hs with ⟨hl, ht⟩ | ⟨-, hl, ht⟩ | ⟨hl, -, ht⟩ | ⟨hl, hf⟩
  · rw [hl, ht]; exact ⟨h1, h2⟩
  · exact ⟨fun _ => ht, fun _ => .inl hl⟩
  · simp [hl, ht]
  · rw [hl]; exact ⟨nofun, fun _ => .inr (hfin hf)⟩

/-- **No call-out under the lock**: every call out of the object that a step makes is made
without the lock, by a thread that holds the lock only in locked code. -/
theorem TStep.callouts_unlocked (h : TStep allowed t H s tr th s' tr' th')
    (h1 : s.lock = some t → lockedTop th.stack) :
    tr'.callouts.filter (·.lockHeld) = tr.callouts.filter (·.lockHeld) := by
  cases h
  case unref hc _ _ =>
    have := (canCall_tops hc).2.1
    cases lastUnref s <;> simp_all
  case disconnectUnref => cases lastUnref s <;> simp_all [Frame.locked]
  case changeRelock => cases hu : lastUnref s <;> simp [hu]
  case changeAttached hl => simp [protectedChangeEntry_of_some hl]
  case finalizeSlots => simp_all [Frame.locked]
  all_goals simp_all

/-- **Every `HAVE_LOCK_CHECK` of a step passes**, when the thread in locked code holds the lock
unless `F`, and an unstarted frame rules `F` out. -/
theorem TStep.lockChecks_held {F : Prop} (h : TStep allowed t H s tr th s' tr' th')
    (h2 : lockedTop th.stack → s.lock = some t ∨ F) (hF : entryTop th.stack → ¬F) :
    tr'.lockChecks.filter (!·.2) = tr.lockChecks.filter (!·.2) := by
  cases h
  case changeAttached | changeDetached =>
    have := (h2 rfl).resolve_right (hF rfl)
    simp [this]
  all_goals (cases lastUnref s <;> simp)

/-- The frames of calls that give the lock back. -/
theorem TStep.releasesLock (h : TStep allowed t H s tr th s' tr' th')
    (hA : ∀ op, allowed op → op.releasesLock) (hr : ∀ f ∈ th.stack, f.releasesLock) :
    ∀ f ∈ th'.stack, f.releasesLock := by
  cases h
  case call ha hf _ _ => exact List.forall_mem_cons.2 ⟨Op.releasesLock_frame hf (hA _ ha), hr⟩
  case unref | disconnectUnref | changeRelock =>
    simp only [List.forall_mem_cons] at hr
    cases lastUnref s
    · first | exact hr | exact hr.2
    · exact List.forall_mem_cons.2 ⟨rfl, by first | exact hr | exact hr.2⟩
  all_goals
    simp only [List.forall_mem_cons] at hr ⊢
    first | exact hr | exact hr.2 | exact ⟨rfl, hr.2⟩ | exact ⟨rfl, rfl, hr.2⟩

end Effects

theorem lockedTop_of_finalizeTop {st : List Frame} (h : finalizeTop st) : lockedTop st = false := by
  match st, h with
  | f :: _, h => cases f <;> simp_all [Frame.finalizing, Frame.locked]

/-! ## 3. The lock invariant -/

namespace Sys

variable {n : Nat}

/-- **Who holds the lock**, in the runs where every call gives it back: the holder is in locked
code; locked code holds the lock, until the server is finalized; `vtable->finalize` is not
called by the lock's holder; no call out of the object is made under the lock; and every
`HAVE_LOCK_CHECK` passes. -/
structure LockInv (σ : Sys n) : Prop where
  frames : ∀ i, ∀ f ∈ (σ.threads i).stack, f.releasesLock
  owner : ∀ i : Fin n, σ.srv.lock = some i.val → lockedTop (σ.threads i).stack
  holder : ∀ i : Fin n, lockedTop (σ.threads i).stack →
    σ.srv.lock = some i.val ∨ σ.tr.finalizes ≠ []
  finalizeLock : ∀ r ∈ σ.tr.finalizes, r.lock ≠ some r.tid
  callouts : σ.tr.callouts.filter (·.lockHeld) = []
  lockChecks : σ.tr.lockChecks.filter (!·.2) = []

theorem Init.lockInv {σ : Sys n} (h : σ.Init) : σ.LockInv where
  frames i := by simp [h.idle]
  owner i := by simp [h.unlocked]
  holder i := by simp [h.idle, lockedTop]
  finalizeLock := by simp [h.trace, Trace.empty]
  callouts := by simp [h.trace, Trace.empty]
  lockChecks := by simp [h.trace, Trace.empty]

/-- While the count is positive `vtable->finalize` has not run. -/
theorem Inv.finalizes_nil {σ : Sys n} (hI : σ.Inv) (h : 0 < σ.srv.refcount) :
    σ.tr.finalizes = [] := by
  have := hI.finalizes; rw [if_neg h.ne'] at this; exact List.eq_nil_of_length_eq_zero this

theorem Inv.finalizes_ne_nil {σ : Sys n} (hI : σ.Inv) (h : σ.srv.refcount = 0) :
    σ.tr.finalizes ≠ [] := by
  have := hI.finalizes; rw [if_pos h] at this; exact List.ne_nil_of_length_eq_add_one this

section ThreadStep

variable {allowed : Op → Prop} {σ : Sys n} {i : Fin n} {srv' : DBusServer} {tr' : Trace}
  {th' : Thread}

theorem LockInv.step_thread (hA : ∀ op, allowed op → op.releasesLock) (hI : σ.Inv)
    (hL : σ.LockInv)
    (h : TStep allowed i.val σ.heldTotal σ.srv σ.tr (σ.threads i) srv' tr' th') :
    LockInv ⟨srv', tr', Function.update σ.threads i th'⟩ := by
  have hfin : finalizeTop (σ.threads i).stack → σ.tr.finalizes ≠ [] :=
    fun hf => hI.finalizes_ne_nil (hI.inFinalize i hf)
  have hown := h.lock_own (hL.frames i) (hI.stackShaped i) (hL.owner i) (hL.holder i) hfin
  have hgrow : σ.tr.finalizes ≠ [] → tr'.finalizes ≠ [] := by
    rcases h.finalizes_cases with ⟨hf, -⟩ | ⟨-, -, -, hf⟩ <;> simp [hf]
  have hF : entryTop (σ.threads i).stack → ¬σ.tr.finalizes ≠ [] := fun he hne =>
    hne (hI.finalizes_nil (by have := hI.entryWeight i he
                              have := (σ.weight_le i).trans_eq hI.balance.symm; omega))
  have hval : ∀ j : Fin n, j ≠ i → i.val ≠ j.val := fun j hj e => hj (Fin.ext e).symm
  refine ⟨?_, ?_, ?_, ?_, ?_, ?_⟩
  · exact (Function.forall_update_iff _ fun (_ : Fin n) (x : Thread) => ∀ f ∈ x.stack, f.releasesLock).2
      ⟨h.releasesLock hA (hL.frames i), fun j _ => hL.frames j⟩
  · refine (Function.forall_update_iff _ fun (j : Fin n) (x : Thread) =>
      srv'.lock = some j.val → lockedTop x.stack).2 ⟨hown.1, fun j hj hl => hL.owner j ?_⟩
    rcases h.lock_cases with he | ⟨-, he⟩ | ⟨he, -⟩ <;> rw [he] at hl
    · exact hl
    · exact absurd (Option.some_injective _ hl) (hval j hj)
    · cases hl
  · refine (Function.forall_update_iff _ fun (j : Fin n) (x : Thread) =>
      lockedTop x.stack → srv'.lock = some j.val ∨ tr'.finalizes ≠ []).2
      ⟨fun ht => (hown.2 ht).imp_right hgrow, fun j hj ht => ?_⟩
    rcases hL.holder j ht with hl | hne
    · rcases h.lock_cases with he | ⟨he, -⟩ | ⟨-, hi⟩
      · exact .inl (he.trans hl)
      · rw [hl] at he; cases he
      · rcases hL.holder i hi with hl' | hne
        · exact absurd (Option.some_injective _ (hl'.symm.trans hl)) (hval j hj)
        · exact .inr (hgrow hne)
    · exact .inr (hgrow hne)
  · rcases h.finalizes_cases with ⟨hf, -⟩ | ⟨-, -, htop, hf⟩
    · rw [hf]; exact hL.finalizeLock
    · simp only [hf, List.mem_append, List.mem_singleton]
      rintro r (hr | rfl)
      · exact hL.finalizeLock r hr
      · intro hl
        have := hown.1 hl
        rw [lockedTop_of_finalizeTop htop] at this
        cases this
  · rw [h.callouts_unlocked (hL.owner i)]; exact hL.callouts
  · rw [h.lockChecks_held (hL.holder i) hF]; exact hL.lockChecks

end ThreadStep

theorem LockInv.step_give {σ : Sys n} {i j : Fin n} (hL : σ.LockInv) :
    LockInv ⟨σ.srv, σ.tr, Function.update (Function.update σ.threads i
      { σ.threads i with held := (σ.threads i).held - 1 }) j
      { σ.threads j with held := (σ.threads j).held + 1 }⟩ where
  frames k := by simpa [give_stack] using hL.frames k
  owner k := by simpa [give_stack] using hL.owner k
  holder k := by simpa [give_stack] using hL.holder k
  finalizeLock := hL.finalizeLock
  callouts := hL.callouts
  lockChecks := hL.lockChecks

end Sys

/-- **In the runs where every call gives the lock back, the lock invariant holds.** -/
theorem Reach.lockInv {allowed : Op → Prop} {n : Nat} {σ₀ σ : Sys n}
    (hA : ∀ op, allowed op → op.releasesLock) (h : Reach allowed σ₀ σ) : σ.LockInv := by
  induction h with
  | init h => exact h.lockInv
  | step hr hs ih =>
    cases hs with
    | thread i h => exact ih.step_thread hA hr.inv h
    | give i j _ _ _ => exact ih.step_give

/-! ## 4. The lifetime of the server

The calls of `dbus_server_ref`, `dbus_server_unref`, `dbus_server_disconnect` and the
lock-holding callers of the helpers, re-entered from the call-outs, all give the lock back, so
the lock invariant and the lifetime invariant hold together. -/

/-- The calls the lifetime protocol is about: `dbus_server_ref`, `dbus_server_unref`,
`dbus_server_disconnect`, and a lock-holding caller of `_dbus_server_add_watch` and the other
helpers. -/
def Op.lifecycle : Op → Bool
  | .ref | .unref | .disconnect | .caller _ _ => true
  | _ => false

/-- **The lifetime of a `DBusServer`.**  In every state of every run whose calls give the lock
back: the count is the references the threads hold plus one per frame inside a temporary
reference; `vtable->disconnect` has run exactly once if the server is disconnected and never
otherwise; `vtable->finalize` has run exactly once if the count is zero and never otherwise,
each time on a disconnected server and never by the thread that holds the lock, and the
assertion `_dbus_assert (server->disconnected)` of `_dbus_server_finalize_base` has never
failed; once the count is zero no frame is inside a temporary reference; and no step takes
`disconnected` back to `FALSE`. -/
theorem dbusServer_lifetime {allowed : Op → Prop} {n : Nat} {σ₀ σ : Sys n}
    (hA : ∀ op, allowed op → op.releasesLock) (h : Reach allowed σ₀ σ) :
    σ.srv.refcount = σ.heldTotal + σ.windowsTotal ∧
    σ.tr.disconnects = (if σ.srv.disconnected then 1 else 0) ∧
    σ.tr.finalizes.length = (if σ.srv.refcount = 0 then 1 else 0) ∧
    (∀ r ∈ σ.tr.finalizes, r.disconnected = true ∧ r.lock ≠ some r.tid) ∧
    FinalizeAssert.disconnected ∉ σ.tr.failedAsserts ∧
    (σ.srv.refcount = 0 → σ.windowsTotal = 0) ∧
    ∀ σ', Step allowed σ σ' → σ.srv.disconnected = true → σ'.srv.disconnected = true := by
  have hI := h.inv
  have hL := h.lockInv hA
  have hbal : σ.srv.refcount = σ.heldTotal + σ.windowsTotal := hI.balance.trans σ.weight_eq
  exact ⟨hbal, hI.disconnects, hI.finalizes,
    fun r hr => ⟨hI.finalizeDisconnected r hr, hL.finalizeLock r hr⟩, hI.assertDisconnected,
    by omega, fun _ hs => hs.disconnected_mono⟩

/-- The theorem on a run in which one thread is inside two temporary references: it adds a
watch, and the application's `add` function calls `dbus_server_disconnect`.  The count, three,
is the one reference held plus two frames in a window. -/
theorem dbusServer_lifetime_nested_windows :
    ∃ σ : Sys 1, Reach (fun op => op.releasesLock) (Sys.fresh 1) σ ∧ σ.heldTotal = 1 ∧
      σ.windowsTotal = 2 ∧ σ.srv.refcount = σ.heldTotal + σ.windowsTotal := by
  have r0 : Reach (fun op => op.releasesLock) (Sys.fresh 1) (Sys.fresh 1) :=
    .init (Sys.fresh_init Nat.one_pos)
  have r1 := r0.step (.thread 0 (.call (.caller .watch (.add 1)) rfl rfl rfl (by decide)))
  have r2 := r1.step (.thread 0 (.callerLock rfl))
  have r3 := r2.step (.thread 0 (.changeAttached rfl))
  have r4 := r3.step (.thread 0 (.call .disconnect rfl rfl rfl (by decide)))
  have r5 := r4.step (.thread 0 (.disconnectFirst rfl rfl))
  exact ⟨_, r5, by decide, by decide, (dbusServer_lifetime (fun _ h => h) r5).1⟩

/-- **`_dbus_server_finalize_base` runs while another thread holds the lock.**  Two threads
each hold a reference.  Thread 1 disconnects the server.  Thread 0, a lock-holding caller of
`_dbus_server_add_watch`, releases its own reference from the application's `add` function;
back in `protected_change_watch` it retakes the lock and drops the temporary reference, which is
not the last one, so it keeps the lock.  Thread 1 then releases the last reference:
`vtable->finalize` runs on the disconnected server while thread 0 holds the lock, and the
assertion `_dbus_assert (!server->have_server_lock)` (line 175) fails. -/
theorem finalize_while_caller_holds_lock :
    ∃ σ : Sys 2, Reach (fun op => op.lifecycle) (Sys.fresh 2) σ ∧ σ.srv.refcount = 0 ∧
      σ.srv.lock = some 0 ∧ σ.tr.finalizes = [⟨1, true, some 0⟩] ∧
      σ.tr.failedAsserts = [.notLocked] := by
  have r0 : Reach (fun op => op.lifecycle) (Sys.fresh 2) (Sys.fresh 2) :=
    .init (Sys.fresh_init (by decide))
  have r1 := r0.step (.thread 1 (.call .disconnect rfl rfl rfl (by decide)))
  have r2 := r1.step (.thread 1 (.disconnectFirst rfl rfl))
  have r3 := r2.step (.thread 1 .vtableDone)
  have r4 := r3.step (.thread 1 .disconnectUnlock)
  have r5 := r4.step (.thread 1 .disconnectUnref)
  have r6 := r5.step (.thread 0 (.call (.caller .watch (.add 1)) rfl rfl rfl (by decide)))
  have r7 := r6.step (.thread 0 (.callerLock rfl))
  have r8 := r7.step (.thread 0 (.changeAttached rfl))
  have r9 := r8.step (.thread 0 (.unref rfl rfl (by decide) (by decide)))
  have r10 := r9.step (.thread 0 (.changeReturn true))
  have r11 := r10.step (.thread 0 (.changeRelock rfl))
  have r12 := r11.step (.thread 1 (.unref rfl rfl (by decide) (by decide)))
  have r13 := r12.step (.thread 1 .finalizeSlots)
  exact ⟨_, r13, rfl, rfl, rfl, rfl⟩

/-! ## 5. Call-outs and lock checks -/

/-- **No call-out under the lock, and every lock check passes**, in every run whose calls give the
lock back: each call of a list operation, of a destructor, of `vtable->finalize` or of the slot
and list frees is made by a thread that does not hold the lock, and each `HAVE_LOCK_CHECK` finds
the lock held by its own thread. -/
theorem callouts_unlocked_of_releasesLock {allowed : Op → Prop} {n : Nat} {σ₀ σ : Sys n}
    (hA : ∀ op, allowed op → op.releasesLock) (h : Reach allowed σ₀ σ) :
    (∀ r ∈ σ.tr.callouts, r.lockHeld = false) ∧ ∀ c ∈ σ.tr.lockChecks, c.2 = true := by
  have hL := h.lockInv hA
  constructor
  · intro r hr
    by_contra hl
    have : r ∈ σ.tr.callouts.filter (·.lockHeld) := List.mem_filter.2 ⟨hr, by simpa using hl⟩
    rw [hL.callouts] at this; cases this
  · intro c hc
    by_contra hl
    have : c ∈ σ.tr.lockChecks.filter (!·.2) := List.mem_filter.2 ⟨hc, by simpa using hl⟩
    rw [hL.lockChecks] at this; cases this

/-- The theorem on a run that adds a watch: its one call-out is made without the lock. -/
theorem callouts_unlocked_add_watch :
    ∃ σ : Sys 1, Reach (fun op => op.releasesLock) (Sys.fresh 1) σ ∧
      σ.tr.callouts = [⟨0, .listOp .watch, false⟩] ∧ ∀ r ∈ σ.tr.callouts, r.lockHeld = false := by
  have r0 : Reach (fun op => op.releasesLock) (Sys.fresh 1) (Sys.fresh 1) :=
    .init (Sys.fresh_init Nat.one_pos)
  have r1 := r0.step (.thread 0 (.call (.caller .watch (.add 1)) rfl rfl rfl (by decide)))
  have r2 := r1.step (.thread 0 (.callerLock rfl))
  have r3 := r2.step (.thread 0 (.changeAttached rfl))
  have r4 := r3.step (.thread 0 (.changeReturn true))
  have r5 := r4.step (.thread 0 (.changeRelock rfl))
  have r6 := r5.step (.thread 0 .callerUnlock)
  exact ⟨_, r6, rfl, (callouts_unlocked_of_releasesLock (fun _ h => h) r6).1⟩

/-- **`dbus_server_set_auth_mechanisms` keeps the lock when its copy fails, and the server is then
finalized under it.**  One thread disconnects the server, sets authentication mechanisms while
`_dbus_dup_string_array` fails, and releases its last reference: `vtable->finalize` is called by
the thread that still holds the lock taken at line 963. -/
theorem finalize_under_lock_after_set_auth_failure :
    ∃ σ : Sys 1, Reach (fun _ => True) (Sys.fresh 1) σ ∧ σ.srv.lock = some 0 ∧
      ⟨0, .finalize, true⟩ ∈ σ.tr.callouts := by
  have r0 : Reach (fun _ => True) (Sys.fresh 1) (Sys.fresh 1) := .init (Sys.fresh_init Nat.one_pos)
  have r1 := r0.step (.thread 0 (.call .disconnect trivial rfl rfl (by decide)))
  have r2 := r1.step (.thread 0 (.disconnectFirst rfl rfl))
  have r3 := r2.step (.thread 0 .vtableDone)
  have r4 := r3.step (.thread 0 .disconnectUnlock)
  have r5 := r4.step (.thread 0 .disconnectUnref)
  have r6 := r5.step (.thread 0
    (.call (.setAuthMechanisms (some ["EXTERNAL"]) false) trivial rfl rfl (by decide)))
  have r7 := r6.step (.thread 0 (.setAuth rfl))
  have r8 := r7.step (.thread 0 (.unref trivial rfl (by decide) (by decide)))
  exact ⟨_, r8, rfl, by decide⟩

end DBus
