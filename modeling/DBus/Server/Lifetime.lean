import DBus.Server.Threads
import Mathlib.Algebra.Order.BigOperators.Group.Finset
/-
# The server's lifetime: references, `disconnect`, `finalize`

The reference count of `DBusServer` is shared by the application's references and by the two
temporary references the object takes itself: `dbus_server_disconnect` holds one from its
`_dbus_server_ref_unlocked` (line 741) to its `dbus_server_unref` (line 751), and
`protected_change_watch`/`_timeout` hold one around the list operation (lines 230-249).  A
thread can be inside several of these at once, since a list operation can call back into
`dbus_server_disconnect` and `vtable->disconnect` calls the helpers again, so the count is one
per FRAME in such a window, not one per thread.

The argument is the usual one for a step relation: say once what one thread's step does to each
quantity (section 2), lift it over the sum across threads (section 3), and carry the bundle
`Sys.Inv` along every run (section 4).
-/

namespace DBus

/-! ## 1. The shape of a stack -/

@[simp] theorem windows_nil : windows [] = 0 := rfl

@[simp] theorem windows_cons (f : Frame) (st : List Frame) :
    windows (f :: st) = windows st + if f.window then 1 else 0 := by
  simp [windows, List.countP_cons]

/-- A frame that calls the lock-requiring helpers with the lock held: `vtable->disconnect`, or
a lock-holding caller between its `SERVER_LOCK` and `SERVER_UNLOCK`. -/
def Frame.callsHelper : Frame → Bool
  | .disconnect .vtable | .caller _ _ true => true
  | _ => false

/-- What the code lets stand directly below a frame.  `protected_change_*` is reached only from
a helper caller; `vtable->finalize` from an unref, which application code (in a call-out, or
outside the server) or a helper caller makes; every other function from application code. -/
def Frame.under (f : Frame) (g : Option Frame) : Bool :=
  match f with
  | .change _ _ _ => g.any Frame.callsHelper
  | .finalize _ => g.all fun g => g.callout || g.callsHelper
  | _ => g.all Frame.callout

/-- A stack as the code builds it: each frame stands on one that may call it. -/
def shaped : List Frame → Bool
  | [] => true
  | f :: st => f.under st.head? && shaped st

/-- The top frame has not started. -/
def entryTop : List Frame → Bool
  | f :: _ => f.entry
  | [] => false

@[simp] theorem entryTop_cons (f : Frame) (st : List Frame) : entryTop (f :: st) = f.entry := rfl

/-- The top frame runs with the lock held. -/
def lockedTop : List Frame → Bool
  | f :: _ => f.locked
  | [] => false

/-- The frame is `vtable->finalize`. -/
def Frame.finalizing : Frame → Bool
  | .finalize _ => true
  | _ => false

/-- The top frame is in `vtable->finalize`. -/
def finalizeTop : List Frame → Bool
  | f :: _ => f.finalizing
  | [] => false

@[simp] theorem lockedTop_cons (f : Frame) (st : List Frame) : lockedTop (f :: st) = f.locked :=
  rfl

@[simp] theorem finalizeTop_cons (f : Frame) (st : List Frame) :
    finalizeTop (f :: st) = f.finalizing := rfl

namespace Frame

variable {f : Frame}

/-- A call-out has started, does not hold the lock, and is not `vtable->finalize`. -/
theorem callout_kind (h : f.callout) :
    f.entry = false ∧ f.locked = false ∧ f.finalizing = false := by
  unfold callout at h; split at h <;> first | exact ⟨rfl, rfl, rfl⟩ | cases h

/-- A helper caller has started, holds the lock, and is not `vtable->finalize`. -/
theorem callsHelper_kind (h : f.callsHelper) :
    f.entry = false ∧ f.locked = true ∧ f.finalizing = false := by
  unfold callsHelper at h; split at h <;> first | exact ⟨rfl, rfl, rfl⟩ | cases h

end Frame

/-- A call starts in a frame that holds no temporary reference, has not started, and does not
hold the lock. -/
theorem Op.frame_fresh {op : Op} {f : Frame} (h : op.frame = some f) :
    f.window = false ∧ f.entry = true ∧ f.locked = false ∧ f.finalizing = false ∧
      ∀ g, f.under g = g.all Frame.callout := by
  cases op <;> simp only [Op.frame, Option.some.injEq, reduceCtorEq] at h <;> subst h <;>
    exact ⟨rfl, rfl, rfl, rfl, fun _ => rfl⟩

/-- Below the top of a shaped stack stands a frame that has started: a call-out or a helper
caller. -/
theorem shaped_below {f g : Frame} {st : List Frame} (h : shaped (f :: g :: st)) :
    g.callout ∨ g.callsHelper := by
  have hu : f.under (some g) := by
    simp only [shaped, List.head?_cons, Bool.and_eq_true] at h; exact h.1
  unfold Frame.under at hu
  split at hu <;> simp only [Option.any_some, Option.all_some, Bool.or_eq_true] at hu
  · exact .inr hu
  · exact hu
  · exact .inl hu

/-- What a shaped stack exposes when its top frame returns: a frame that has started and is
not `vtable->finalize`. -/
theorem shaped_tail {f : Frame} {st : List Frame} (h : shaped (f :: st)) :
    entryTop st = false ∧ finalizeTop st = false := by
  match st, h with
  | [], _ => exact ⟨rfl, rfl⟩
  | g :: _, h =>
    rcases shaped_below h with hg | hg
    · exact ⟨(Frame.callout_kind hg).1, (Frame.callout_kind hg).2.2⟩
    · exact ⟨(Frame.callsHelper_kind hg).1, (Frame.callsHelper_kind hg).2.2⟩

/-- `vtable->finalize` may stand wherever an unref is made: on application code or on a helper
caller. -/
theorem finalize_under {g : Option Frame} (h : g.all Frame.callout ∨ g.any Frame.callsHelper) :
    g.all (fun g => g.callout || g.callsHelper) := by
  cases g <;> simp_all

theorem canCall_eq (st : List Frame) : canCall st = st.head?.all Frame.callout := by
  cases st <;> rfl

/-- Where application code runs, the thread is at no unstarted frame, does not hold the lock,
and is not in `vtable->finalize`. -/
theorem canCall_tops {st : List Frame} (h : canCall st) :
    entryTop st = false ∧ lockedTop st = false ∧ finalizeTop st = false := by
  match st, h with
  | [], _ => exact ⟨rfl, rfl, rfl⟩
  | _ :: _, h => exact Frame.callout_kind h

/-! ## 2. What one thread's step does -/

section Finalize

variable {t : Nat} {s : DBusServer} {tr : Trace} {st : List Frame}

@[simp] theorem finalizeIf_false : finalizeIf t false s tr st = (tr, st) := rfl

@[simp] theorem finalizeIf_true :
    finalizeIf t true s tr st = (tr.finalizeCall t s, .finalize false :: st) := rfl

/-- The record `finalizeIf` leaves: the call of `vtable->finalize` on the last reference. -/
@[simp] theorem finalizeIf_fst {last : Bool} : (finalizeIf t last s tr st).1 =
    { tr with
      finalizes := tr.finalizes ++ if last then [⟨t, s.disconnected, s.lock⟩] else []
      callouts := tr.callouts ++ if last then [⟨t, .finalize, s.lock == some t⟩] else [] } := by
  cases last <;> simp

@[simp] theorem finalizeIf_windows {last : Bool} :
    windows (finalizeIf t last s tr st).2 = windows st := by
  cases last <;> simp [Frame.window]

end Finalize

section Effects

variable {allowed : Op → Prop} {t H : Nat} {s s' : DBusServer} {tr tr' : Trace}
  {th th' : Thread}

/-- **Balance.**  A step moves references between the count and the thread's weight: the sum of
the two is unchanged. -/
theorem TStep.refcount_add (h : TStep allowed t H s tr th s' tr' th')
    (hw : th.weight ≤ s.refcount) : s'.refcount + th.weight = s.refcount + th'.weight := by
  cases h
  case call _ hf _ _ => simp [Thread.weight, (Op.frame_fresh hf).1]
  case changeAttached hl => simp [protectedChangeEntry_of_some hl, Thread.weight, Frame.window]; omega
  case changeDetached hl => simp [protectedChangeEntry_of_none hl, Thread.weight, Frame.window]
  case unref | disconnectUnref | changeRelock =>
    simp [Thread.weight, Frame.window] at *; omega
  all_goals simp [Thread.weight, Frame.window]; try omega

theorem TStep.held_cases (h : TStep allowed t H s tr th s' tr' th') :
    th'.held = th.held ∨ th'.held = th.held + 1 ∨
      (th'.held + 1 = th.held ∧ (H = 1 → s.disconnected = true)) := by
  cases h
  case ref => exact .inr (.inl rfl)
  case unref hh hd => exact .inr (.inr ⟨by simp only; omega, hd⟩)
  all_goals exact .inl rfl

/-- `disconnected` is set once, by the `dbus_server_disconnect` that calls
`vtable->disconnect`. -/
theorem TStep.disconnected_cases (h : TStep allowed t H s tr th s' tr' th') :
    (s'.disconnected = s.disconnected ∧ tr'.disconnects = tr.disconnects) ∨
      (s.disconnected = false ∧ s'.disconnected = true ∧ tr'.disconnects = tr.disconnects + 1) := by
  cases h
  case disconnectFirst hd => exact .inr ⟨hd, by simp⟩
  case disconnectAgain hd => exact .inl ⟨by simp [hd], rfl⟩
  all_goals exact .inl ⟨by simp, by simp⟩

/-- `vtable->finalize` is called exactly on the step that drops the count from one to zero,
and that step leaves the thread in it. -/
theorem TStep.finalizes_cases (h : TStep allowed t H s tr th s' tr' th') :
    tr'.finalizes = tr.finalizes ∧ (s'.refcount = 0 → s.refcount = 0) ∨
      (s.refcount = 1 ∧ s'.refcount = 0 ∧ finalizeTop th'.stack ∧
        tr'.finalizes = tr.finalizes ++ [⟨t, s'.disconnected, s'.lock⟩]) := by
  cases h
  case unref | disconnectUnref | changeRelock =>
    cases hl : lastUnref s
    · have : s.refcount ≠ 1 := fun h => by simp [lastUnref, h] at hl
      exact .inl ⟨by simp, by simp; omega⟩
    · have := lastUnref_iff.1 hl
      exact .inr ⟨this, by simp [this], rfl, by simp⟩
  case changeAttached hl => exact .inl ⟨rfl, by simp [protectedChangeEntry_of_some hl]⟩
  case changeDetached hl => exact .inl ⟨rfl, by simp [protectedChangeEntry_of_none hl]⟩
  all_goals exact .inl ⟨by simp, by simp⟩

/-- The count grows only by a reference the thread itself stands on: one it holds, or the one
its unstarted `dbus_server_disconnect` or `protected_change_*` was called with. -/
theorem TStep.grows (h : TStep allowed t H s tr th s' tr' th') (hlt : s.refcount < s'.refcount) :
    0 < th.weight ∨ entryTop th.stack := by
  cases h
  case ref hp => exact .inl hp
  case disconnectFirst | disconnectAgain | changeAttached => exact .inr rfl
  case changeDetached hl => simp [protectedChangeEntry_of_none hl] at hlt
  all_goals simp at hlt <;> omega

/-- The thread's stack stays shaped. -/
theorem TStep.preserves_shaped (h : TStep allowed t H s tr th s' tr' th') (hs : shaped th.stack) :
    shaped th'.stack := by
  cases h
  case call _ hf hc _ => simpa [DBus.shaped, (Op.frame_fresh hf).2.2.2.2, ← canCall_eq] using ⟨hc, hs⟩
  case unref | disconnectUnref | changeRelock =>
    cases lastUnref s <;> simp_all [DBus.shaped, Frame.under, canCall_eq, finalize_under]
  all_goals simp_all [DBus.shaped, Frame.under, Frame.callsHelper]

/-- An unstarted top frame keeps the reference it was called with. -/
theorem TStep.entry_pos (h : TStep allowed t H s tr th s' tr' th') (hs : shaped th.stack)
    (he : entryTop th.stack → 0 < th.weight) : entryTop th'.stack → 0 < th'.weight := by
  cases h
  case call _ hf _ hp => intro; simpa [Thread.weight, (Op.frame_fresh hf).1] using hp
  case callerLock => simpa [Thread.weight, Frame.window, Frame.entry] using he
  case vtableCall => simp [Thread.weight, Frame.window]
  case ref hc _ | unref hc _ _ => cases lastUnref s <;> simp [(canCall_tops hc).1, Frame.entry]
  case disconnectUnref | changeRelock =>
    cases lastUnref s <;> simp [(shaped_tail hs).1, Frame.entry]
  all_goals intro h'; simp [Frame.entry, (shaped_tail hs).1] at h'

/-- A thread is in `vtable->finalize` only from the step that called it, which dropped the
count to zero. -/
theorem TStep.finalizeTop_cases (h : TStep allowed t H s tr th s' tr' th')
    (hs : DBus.shaped th.stack) (hf : finalizeTop th'.stack) :
    finalizeTop th.stack ∧ s'.refcount = s.refcount ∨ s'.refcount = 0 := by
  cases h
  case call _ hf' _ _ => simp [(Op.frame_fresh hf').2.2.2.1] at hf
  case ref hc _ => simp [(canCall_tops hc).2.2] at hf
  case unref hc _ _ =>
    cases hl : lastUnref s <;> simp_all [(canCall_tops hc).2.2, lastUnref_iff.1]
  case disconnectUnref | changeRelock =>
    cases hl : lastUnref s <;> simp_all [(shaped_tail hs).2, lastUnref_iff.1]
  all_goals simp_all [(shaped_tail hs).2, Frame.finalizing]

/-- `_dbus_server_finalize_base` ends only in `vtable->finalize`. -/
theorem TStep.finalized_cases (h : TStep allowed t H s tr th s' tr' th')
    (hf : tr'.finalized = true) :
    tr.finalized = true ∨ finalizeTop th.stack ∧ s'.refcount = s.refcount := by
  cases h
  case finalizeRest => exact .inr ⟨rfl, rfl⟩
  all_goals exact .inl (by simpa using hf)

/-- The assertions of `_dbus_server_finalize_base` are evaluated once, at its first step, by
the thread in `vtable->finalize`. -/
theorem TStep.failedAsserts_cases (h : TStep allowed t H s tr th s' tr' th') :
    tr'.failedAsserts = tr.failedAsserts ∨ finalizeTop th.stack ∧
      tr'.failedAsserts = tr.failedAsserts ++ ((if s.lock.isNone then [] else [.notLocked]) ++
        if s.disconnected then [] else [.disconnected]) := by
  cases h
  case finalizeSlots => exact .inr ⟨rfl, by simp⟩
  case unref | disconnectUnref | changeRelock => exact .inl (by cases lastUnref s <;> rfl)
  all_goals exact .inl rfl

theorem TStep.finalized_mono (h : TStep allowed t H s tr th s' tr' th')
    (hf : tr.finalized = true) : tr'.finalized = true := by
  cases h <;> simp [hf]

end Effects

/-! ## 3. Sums over the threads -/

section Sums

variable {n : Nat} (w : Thread → Nat) (g : Fin n → Thread)

/-- Replacing one thread changes a sum over the threads by the difference of its two values. -/
theorem sum_update (i : Fin n) (x : Thread) :
    (∑ j, w (Function.update g i x j)) + w (g i) = (∑ j, w (g j)) + w x := by
  rw [← Finset.add_sum_erase _ _ (Finset.mem_univ i), ← Finset.add_sum_erase _ _ (Finset.mem_univ i),
    Function.update_same, Finset.sum_congr rfl fun j hj => by
      rw [Function.update_noteq (Finset.ne_of_mem_erase hj)]]
  omega

theorem le_sum (i : Fin n) : w (g i) ≤ ∑ j, w (g j) :=
  Finset.single_le_sum (fun j _ => Nat.zero_le (w (g j))) (Finset.mem_univ i)

theorem add_le_sum {i j : Fin n} (hij : i ≠ j) : w (g i) + w (g j) ≤ ∑ k, w (g k) := by
  rw [← Finset.sum_pair (f := fun k => w (g k)) hij]
  exact Finset.sum_le_sum_of_subset (Finset.subset_univ _)

end Sums

namespace Sys

variable {n : Nat}

/-- The temporary references the threads' frames hold. -/
def windowsTotal (σ : Sys n) : Nat := ∑ i, windows (σ.threads i).stack

theorem weight_eq (σ : Sys n) : σ.weight = σ.heldTotal + σ.windowsTotal := by
  simp [weight, heldTotal, windowsTotal, Thread.weight, Finset.sum_add_distrib]

theorem weight_le (σ : Sys n) (i : Fin n) : (σ.threads i).weight ≤ σ.weight :=
  le_sum Thread.weight σ.threads i

end Sys

/-! ## 4. The invariant of every run -/

namespace Sys

variable {n : Nat}

/-- **What every reachable state satisfies**, whatever calls the application makes: the count
is the references held plus the temporary ones; the last held reference is released only after
`dbus_server_disconnect`; `vtable->disconnect` has run once if the server is disconnected, else
never; `vtable->finalize` has run once if the count is zero, else never, and on a disconnected
server; every stack is shaped, and an unstarted frame stands on a reference; a thread in
`vtable->finalize`, or a finished `_dbus_server_finalize_base`, means the count is zero; and
`_dbus_assert (server->disconnected)` in `_dbus_server_finalize_base` never fails. -/
structure Inv (σ : Sys n) : Prop where
  balance : σ.srv.refcount = σ.weight
  heldZero : σ.heldTotal = 0 → σ.srv.disconnected = true
  disconnects : σ.tr.disconnects = if σ.srv.disconnected then 1 else 0
  finalizes : σ.tr.finalizes.length = if σ.srv.refcount = 0 then 1 else 0
  finalizeDisconnected : ∀ r ∈ σ.tr.finalizes, r.disconnected = true
  stackShaped : ∀ i, shaped (σ.threads i).stack
  entryWeight : ∀ i, entryTop (σ.threads i).stack → 0 < (σ.threads i).weight
  inFinalize : ∀ i, finalizeTop (σ.threads i).stack → σ.srv.refcount = 0
  finalizedZero : σ.tr.finalized = true → σ.srv.refcount = 0
  assertDisconnected : FinalizeAssert.disconnected ∉ σ.tr.failedAsserts

theorem Init.inv {σ : Sys n} (h : σ.Init) : σ.Inv where
  balance := by simp [h.refcount, weight, heldTotal, Thread.weight, h.idle]
  heldZero := by have := h.held; omega
  disconnects := by simp [h.trace, h.connected, Trace.empty]
  finalizes := by simp [h.trace, Trace.empty, h.refcount, h.held.ne']
  finalizeDisconnected := by simp [h.trace, Trace.empty]
  stackShaped i := by simp [h.idle, shaped]
  entryWeight i := by simp [h.idle, entryTop]
  inFinalize i := by simp [h.idle, finalizeTop]
  finalizedZero := by simp [h.trace, Trace.empty]
  assertDisconnected := by simp [h.trace, Trace.empty]

theorem heldTotal_le_weight (σ : Sys n) : σ.heldTotal ≤ σ.weight := by
  rw [weight_eq]; omega

/-- At a count of zero no thread holds a reference, so the server is disconnected. -/
theorem Inv.disconnected_of_zero {σ : Sys n} (hI : σ.Inv) (h0 : σ.srv.refcount = 0) :
    σ.srv.disconnected = true :=
  hI.heldZero (by have := σ.heldTotal_le_weight; have := hI.balance; omega)

section ThreadStep

variable {allowed : Op → Prop} {σ : Sys n} {i : Fin n} {srv' : DBusServer} {tr' : Trace}
  {th' : Thread}

/-- A count of zero stays zero: nothing stands on the server any more. -/
theorem Inv.refcount_zero (hI : σ.Inv)
    (h : TStep allowed i.val σ.heldTotal σ.srv σ.tr (σ.threads i) srv' tr' th')
    (h0 : σ.srv.refcount = 0) : srv'.refcount = 0 := by
  by_contra hne
  have hw := (σ.weight_le i).trans_eq hI.balance.symm
  rcases h.grows (by omega) with hp | he
  · omega
  · have := hI.entryWeight i he; omega

theorem Inv.step_thread (hI : σ.Inv)
    (h : TStep allowed i.val σ.heldTotal σ.srv σ.tr (σ.threads i) srv' tr' th') :
    Inv ⟨srv', tr', Function.update σ.threads i th'⟩ := by
  have hw := (σ.weight_le i).trans_eq hI.balance.symm
  have hbal := h.refcount_add hw
  have hW := sum_update Thread.weight σ.threads i th'
  have hH := sum_update Thread.held σ.threads i th'
  have hzero := hI.refcount_zero h
  have hbal' : srv'.refcount = weight ⟨srv', tr', Function.update σ.threads i th'⟩ := by
    have := hI.balance; simp only [weight] at this ⊢; omega
  have hheld' : heldTotal ⟨srv', tr', Function.update σ.threads i th'⟩ = 0 →
      srv'.disconnected = true := by
    simp only [heldTotal]
    intro h0
    rcases h.disconnected_cases with ⟨hd, -⟩ | ⟨-, hd, -⟩
    · rcases h.held_cases with hh | hh | ⟨hh, hlast⟩
      · rw [hd]; exact hI.heldZero (by simp only [heldTotal]; omega)
      · omega
      · rw [hd]; exact hlast (by simp only [heldTotal]; omega)
    · exact hd
  refine ⟨hbal', hheld', ?_, ?_, ?_, ?_, ?_, ?_, ?_, ?_⟩
  · rcases h.disconnected_cases with ⟨hd, hn⟩ | ⟨hd, hd', hn⟩
    · simp [hd, hn, hI.disconnects]
    · simp [hd, hd', hn, hI.disconnects]
  · rcases h.finalizes_cases with ⟨hf, hz⟩ | ⟨h1, h0, -, hf⟩
    · have : srv'.refcount = 0 ↔ σ.srv.refcount = 0 := ⟨hz, hzero⟩
      simp [hf, this, hI.finalizes]
    · simp [hf, h0, hI.finalizes, h1]
  · rcases h.finalizes_cases with ⟨hf, -⟩ | ⟨-, h0, -, hf⟩
    · simpa [hf] using hI.finalizeDisconnected
    · simp only [hf, List.mem_append, List.mem_singleton]
      rintro r (hr | rfl)
      · exact hI.finalizeDisconnected r hr
      · exact hheld' (by have := heldTotal_le_weight ⟨srv', tr', Function.update σ.threads i th'⟩; omega)
  · exact (Function.forall_update_iff _ fun (_ : Fin n) (x : Thread) => shaped x.stack).2
      ⟨h.preserves_shaped (hI.stackShaped i), fun j _ => hI.stackShaped j⟩
  · exact (Function.forall_update_iff _ fun (_ : Fin n) (x : Thread) => entryTop x.stack → 0 < x.weight).2
      ⟨h.entry_pos (hI.stackShaped i) (hI.entryWeight i), fun j _ => hI.entryWeight j⟩
  · refine (Function.forall_update_iff _ fun (_ : Fin n) (x : Thread) => finalizeTop x.stack → srv'.refcount = 0).2
      ⟨fun hf => ?_, fun j _ hf => hzero (hI.inFinalize j hf)⟩
    rcases h.finalizeTop_cases (hI.stackShaped i) hf with ⟨hf, he⟩ | h0
    · rw [he]; exact hI.inFinalize i hf
    · exact h0
  · intro hf
    rcases h.finalized_cases hf with hf | ⟨hf, he⟩
    · exact hzero (hI.finalizedZero hf)
    · rw [he]; exact hI.inFinalize i hf
  · rcases h.failedAsserts_cases with he | ⟨hf, he⟩
    · rw [he]; exact hI.assertDisconnected
    · simp [he, hI.disconnected_of_zero (hI.inFinalize i hf), hI.assertDisconnected]

end ThreadStep

section Give

variable {σ : Sys n} {i j : Fin n}

/-- Handing a reference from thread `i` to thread `j` changes no stack. -/
theorem give_stack (k : Fin n) :
    (Function.update (Function.update σ.threads i { σ.threads i with held := (σ.threads i).held - 1 })
      j { σ.threads j with held := (σ.threads j).held + 1 } k).stack = (σ.threads k).stack := by
  by_cases hk : k = j
  · subst hk; simp
  · by_cases hk' : k = i
    · subst hk'; simp [hk]
    · simp [hk, hk']

theorem Inv.step_give (hI : σ.Inv) (hij : i ≠ j) (hc : canCall (σ.threads i).stack)
    (hh : 0 < (σ.threads i).held) :
    Inv ⟨σ.srv, σ.tr, Function.update (Function.update σ.threads i
      { σ.threads i with held := (σ.threads i).held - 1 }) j
      { σ.threads j with held := (σ.threads j).held + 1 }⟩ := by
  set a : Thread := { σ.threads i with held := (σ.threads i).held - 1 }
  set b : Thread := { σ.threads j with held := (σ.threads j).held + 1 }
  have hj : Function.update σ.threads i a j = σ.threads j := Function.update_noteq hij.symm _ _
  have hs : ∀ k, (Function.update (Function.update σ.threads i a) j b k).stack =
      (σ.threads k).stack := give_stack
  have hsum (w : Thread → Nat) (ha : w a + 1 = w (σ.threads i)) (hb : w b = w (σ.threads j) + 1) :
      ∑ k, w (Function.update (Function.update σ.threads i a) j b k) = ∑ k, w (σ.threads k) := by
    have h1 := sum_update w σ.threads i a
    have h2 := sum_update w (Function.update σ.threads i a) j b
    rw [hj] at h2; omega
  have hW := hsum Thread.weight (by simp [a, Thread.weight]; omega) (by simp [b, Thread.weight]; omega)
  have hH := hsum Thread.held (by simp [a]; omega) (by simp [b])
  refine ⟨?_, ?_, hI.disconnects, hI.finalizes, hI.finalizeDisconnected, ?_, ?_, ?_, hI.finalizedZero,
    hI.assertDisconnected⟩
  · simpa [weight, hW] using hI.balance
  · simpa [heldTotal, hH] using hI.heldZero
  · intro k; simpa [hs] using hI.stackShaped k
  · intro k he
    rw [hs] at he
    by_cases hk : k = j
    · subst hk; simp [b, Thread.weight]
    · have hki : k ≠ i := by rintro rfl; simp [(canCall_tops hc).1] at he
      simpa [hk, hki] using hI.entryWeight k he
  · intro k hf; rw [hs] at hf; exact hI.inFinalize k hf

end Give

end Sys

/-- `disconnected` never goes back to `FALSE`. -/
theorem Step.disconnected_mono {allowed : Op → Prop} {n : Nat} {σ σ' : Sys n}
    (h : Step allowed σ σ') (hd : σ.srv.disconnected = true) : σ'.srv.disconnected = true := by
  cases h with
  | thread i h => rcases h.disconnected_cases with ⟨he, -⟩ | ⟨he, -⟩ <;> simp_all
  | give => exact hd

/-- **Every reachable state satisfies the invariant.** -/
theorem Reach.inv {allowed : Op → Prop} {n : Nat} {σ₀ σ : Sys n} (h : Reach allowed σ₀ σ) :
    σ.Inv := by
  induction h with
  | init h => exact h.inv
  | step _ hs ih =>
    cases hs with
    | thread i h => exact ih.step_thread h
    | give i j hij hc hh => exact ih.step_give hij hc hh

/-! ## 5. A fresh server -/

/-- A server as `dbus_server_listen` returns it (`_dbus_server_init_base` leaves empty registries
and no callbacks), once the application has taken one reference for each of `n` threads. -/
def Sys.fresh (n : Nat) : Sys n :=
  ⟨⟨n, false, none, some ⟨[], 0⟩, some ⟨[], 0⟩, NewConnection.null, none, [], none, none⟩,
    Trace.empty, fun _ => ⟨[], 1⟩⟩

theorem Sys.fresh_init {n : Nat} (hn : 0 < n) : (Sys.fresh n).Init where
  idle _ := rfl
  refcount := by simp [Sys.fresh, Sys.heldTotal]
  held := by simp [Sys.fresh, Sys.heldTotal, hn]
  connected := rfl
  unlocked := rfl
  watches := rfl
  timeouts := rfl
  newConnection := rfl
  trace := rfl

end DBus
