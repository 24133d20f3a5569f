import DBus.Server.Init
import DBus.Server.Lifetime
/-
# The blocks over a server's life

`_dbus_server_init_base` allocates five blocks for the record: the guid's buffer, the address, the
mutex and the two registries (`Init`).  `_dbus_server_finalize_base` (lines 169-194) frees them
again: `_dbus_watch_list_free (server->watches)`, `_dbus_timeout_list_free (server->timeouts)`,
`_dbus_mutex_free_at_location (&server->mutex)`, `dbus_free (server->address)` and
`_dbus_string_free (&server->guid_hex)`.  The mutex and address frees do nothing on `NULL`; the
two list frees are called without a test.

Between the two, no function of `dbus-server.c` writes the address or the guid
(`Reach.keeps_address`), and the only blocks that move are the registries, which calls take out
of their fields and put back (`Registry`).  So the frees at the end of a server's life give the
heap back as it was before `_dbus_server_init_base`, but for each registry that is out of its
field at that moment: its list stays live, and its free is a call on `NULL`
(`heap_restored_at_finalize`).
-/

namespace DBus

/-! ## 1. `_dbus_server_finalize_base` on the ledger -/

namespace BaseRecord

/-- A free that the code does not guard by a test of the pointer, as
`_dbus_watch_list_free (server->watches)`: it releases the block the record points to, and on a
`NULL` pointer it frees nothing that is live, which the heap records as a bad free. -/
def releaseUnguarded (r : BaseRecord) (b : Block) : BaseRecord :=
  if r.owns b then r.release b
  else { r with heap := { r.heap with badFrees := r.heap.badFrees ++ [b] } }

variable {h₀ : Heap} {r : BaseRecord} {b c : Block}

theorem owns_releaseUnguarded : (r.releaseUnguarded b).owns c = (r.owns c && c != b) := by
  unfold releaseUnguarded
  split
  · exact owns_release
  · by_cases hc : c = b
    · subst hc; simp_all [owns]
    · cases c <;> simp_all [owns]

/-- An unguarded free keeps the ledger, with one bad free more when the pointer is `NULL`. -/
theorem Ledger.releaseUnguarded (hl : r.Ledger h₀) :
    (r.releaseUnguarded b).Ledger
      (if r.owns b then h₀ else { h₀ with badFrees := h₀.badFrees ++ [b] }) := by
  unfold BaseRecord.releaseUnguarded
  split
  · exact hl.release ‹_›
  · exact ⟨fun c => hl.1 c, by simp [hl.2]⟩

end BaseRecord

/-- **`_dbus_server_finalize_base`** (lines 169-194) with the blocks of `_dbus_server_init_base`.
The record is that of `finalizeBaseRest` after `_dbus_data_slot_list_free`.  On the heap it frees,
in the code's order, the two registries without a test, the mutex and the address, which are left
alone when `NULL`, and the guid's buffer.  The mechanisms are not blocks of the ledger. -/
def finalizeBaseRecord (r : BaseRecord) : BaseRecord :=
  let r' := ((((r.releaseUnguarded .watches).releaseUnguarded .timeouts).releaseIfSet
    .mutex).releaseIfSet .address).release .guidHex
  { r' with srv := (finalizeBaseRest (slotListFree r.srv).1).1 }

/-- When every allocation succeeds, the record holds the address with the guid appended and the
guid, the mutex is set, and the heap holds one block more of each kind the record points to. -/
theorem dbusServerInitBase_of_all {a : InitAllocs} (ha : a.all = true) (address uuidHex : String)
    (r : BaseRecord) :
    let r' := (dbusServerInitBase a address uuidHex r).2
    r'.srv.address = some (address ++ ",guid=" ++ uuidHex) ∧ r'.srv.guidHex = some uuidHex ∧
      r'.mutex = true ∧ r'.heap.badFrees = r.heap.badFrees ∧
      ∀ b, r'.heap.live.count b = r.heap.live.count b + if b = .withGuid then 0 else 1 := by
  simp only [InitAllocs.all, Bool.and_eq_true] at ha
  obtain ⟨⟨⟨⟨⟨hg, hu⟩, hc⟩, hm⟩, hw⟩, ht⟩ := ha
  obtain ⟨hc1, hcb, hcc⟩ := copyAddressWithGuidAppended_spec a address uuidHex (r.heap.alloc .guidHex)
  rw [hc, if_pos rfl] at hc1
  simp only [dbusServerInitBase, BaseRecord.store, hg, hu, hc1, hm, hw, ht, Bool.not_true,
    Bool.false_eq_true, ↓reduceIte, Option.isNone_some]
  refine ⟨trivial, trivial, trivial, by simp [hcb], fun b => ?_⟩
  simp only [Heap.count_alloc, hcc, hc1]
  cases b <;> simp

/-- **The frees of `_dbus_server_finalize_base` undo `_dbus_server_init_base`**, on any record
that still holds the address and the guid the latter stored: the heap is as before
`_dbus_server_init_base` but for the registries out of their fields, whose blocks stay live and
whose frees are bad. -/
theorem finalizeBaseRecord_after_init (a : InitAllocs) (address uuidHex : String) (h : Heap)
    (ha : a.all = true) (srv : DBusServer)
    (hs : srv.address = some (address ++ ",guid=" ++ uuidHex)) (hg : srv.guidHex = some uuidHex) :
    let out := (if srv.watches.isSome then [] else [Block.watches]) ++
      (if srv.timeouts.isSome then [] else [Block.timeouts])
    let r := finalizeBaseRecord
      { (dbusServerInitBase a address uuidHex ⟨DBusServer.zero, false, h⟩).2 with srv := srv }
    r.heap.live.Perm (h.live ++ out) ∧ r.heap.badFrees = h.badFrees ++ out := by
  intro out
  obtain ⟨-, -, hm, hb, hc⟩ := dbusServerInitBase_of_all ha address uuidHex
    ⟨DBusServer.zero, false, h⟩
  set R : BaseRecord :=
    { (dbusServerInitBase a address uuidHex ⟨DBusServer.zero, false, h⟩).2 with srv := srv }
  -- the record points to the five blocks but the registries that are out
  have l₀ : R.Ledger ⟨h.live ++ out, h.badFrees⟩ := by
    refine ⟨fun b => ?_, hb⟩
    rw [show R.heap = _ from rfl, hc b]
    cases hw : srv.watches <;> cases ht : srv.timeouts <;> cases b <;>
      simp [out, hw, ht, hs, hg, hm, BaseRecord.owns, R, List.count_cons]
  -- the frees, in the code's order
  have l₅ := ((((l₀.releaseUnguarded (b := .watches)).releaseUnguarded (b := .timeouts)).releaseIfSet
    (b := .mutex)).releaseIfSet (b := .address)).release (b := .guidHex)
    (by simp only [BaseRecord.owns_releaseIfSet, BaseRecord.owns_releaseUnguarded]
        simp [BaseRecord.owns, R, hg])
  refine ⟨(l₅.perm fun b => ?_).trans ?_, l₅.2.trans ?_⟩
  · simp only [BaseRecord.owns_release, BaseRecord.owns_releaseIfSet,
      BaseRecord.owns_releaseUnguarded]
    cases b <;> simp [BaseRecord.owns]
  · split_ifs <;> rfl
  · simp only [BaseRecord.owns_releaseUnguarded]
    cases hw : srv.watches <;> cases ht : srv.timeouts <;> simp [out, hw, ht, BaseRecord.owns, R]

/-! ## 2. The address and the guid over a run -/

@[simp] theorem DBusServer.setList_address (s : DBusServer) (k : ListKind)
    (l : Option DBusWatchList) : (s.setList k l).address = s.address := by cases k <;> rfl

@[simp] theorem DBusServer.setList_guidHex (s : DBusServer) (k : ListKind)
    (l : Option DBusWatchList) : (s.setList k l).guidHex = s.guidHex := by cases k <;> rfl

section Steps

variable {allowed : Op → Prop} {t H : Nat} {s s' : DBusServer} {tr tr' : Trace}
  {th th' : Thread}

/-- No step writes the address or the guid, until `_dbus_server_finalize_base` ends. -/
theorem TStep.keeps_address (h : TStep allowed t H s tr th s' tr' th')
    (hf : tr'.finalized = false) : s'.address = s.address ∧ s'.guidHex = s.guidHex := by
  cases h
  case finalizeRest => simp at hf
  case changeAttached hl => simp [protectedChangeEntry_of_some hl, refInc]
  case changeDetached hl => simp [protectedChangeEntry_of_none hl]
  case setDataFree | setDataNoFree | setDataFailed => unfold setDataLocked; split <;> simp
  case setAuth => unfold dbusServerSetAuthMechanisms; split <;> (try split) <;> simp
  case disconnectFirst | disconnectAgain => simp only [disconnectLocked, refInc]; split <;> simp
  case changeRelock => simp only [protectedChangeRelock, refDec]; split <;> simp
  all_goals simp [refInc, refDec, setFunctionsLocked, setFunctionsRelock, swapNewConnection,
    slotListFree]

end Steps

/-- **The address and the guid are those of the first state**, in every state of every run
before `_dbus_server_finalize_base` ends. -/
theorem Reach.keeps_address {allowed : Op → Prop} {n : Nat} {σ₀ σ : Sys n}
    (h : Reach allowed σ₀ σ) (hf : σ.tr.finalized = false) :
    σ.srv.address = σ₀.srv.address ∧ σ.srv.guidHex = σ₀.srv.guidHex := by
  induction h with
  | init => exact ⟨rfl, rfl⟩
  | @step σ _ _ hs ih =>
    cases hs with
    | thread i h =>
      have hf₀ : σ.tr.finalized = false := by
        cases e : σ.tr.finalized
        · rfl
        · rw [h.finalized_mono e] at hf; cases hf
      obtain ⟨ha, hg⟩ := h.keeps_address hf
      exact ⟨ha.trans (ih hf₀).1, hg.trans (ih hf₀).2⟩
    | give => exact ih hf

/-! ## 3. The heap at the end of a server's life -/

/-- **The heap at the end of a server's life.**  Take a server that `_dbus_server_init_base`
built with every allocation succeeding, and any state of any run on it before
`_dbus_server_finalize_base` has ended, in particular the state at which its frees run.  Those
frees leave the heap as it was before `_dbus_server_init_base`, with no bad free, but for each
registry that is out of its field at that moment: its list is still live, and its free is a free
through `NULL`. -/
theorem heap_restored_at_finalize (a : InitAllocs) (address uuidHex : String) (h : Heap)
    (ha : a.all = true) {allowed : Op → Prop} {n : Nat} {σ₀ σ : Sys n}
    (h₀ : σ₀.srv = (dbusServerInitBase a address uuidHex ⟨DBusServer.zero, false, h⟩).2.srv)
    (hr : Reach allowed σ₀ σ) (hf : σ.tr.finalized = false) :
    let out := (if σ.srv.watches.isSome then [] else [Block.watches]) ++
      (if σ.srv.timeouts.isSome then [] else [Block.timeouts])
    let r := finalizeBaseRecord
      { (dbusServerInitBase a address uuidHex ⟨DBusServer.zero, false, h⟩).2 with srv := σ.srv }
    r.heap.live.Perm (h.live ++ out) ∧ r.heap.badFrees = h.badFrees ++ out := by
  obtain ⟨hs, hg, -⟩ := dbusServerInitBase_of_all ha address uuidHex ⟨DBusServer.zero, false, h⟩
  obtain ⟨ha', hg'⟩ := hr.keeps_address hf
  rw [h₀] at ha' hg'
  exact finalizeBaseRecord_after_init a address uuidHex h ha σ.srv (ha'.trans hs) (hg'.trans hg)

/-- The theorem on a server that one thread disconnects and releases, at the frees of
`_dbus_server_finalize_base`: both registries are in their fields, and the heap is empty again. -/
theorem heap_restored_at_finalize_after_unref :
    let a : InitAllocs := ⟨true, true, true, true, true, true, true, true, true, true⟩
    let r := dbusServerInitBase a "unix:tmpdir=/tmp" "0123" ⟨DBusServer.zero, false, ⟨[], []⟩⟩
    ∃ σ : Sys 1, Reach (fun _ => True) ⟨r.2.srv, Trace.empty, fun _ => ⟨[], 1⟩⟩ σ ∧
      σ.tr.finalized = false ∧ finalizeTop (σ.threads 0).stack ∧
      let out := (if σ.srv.watches.isSome then [] else [Block.watches]) ++
        (if σ.srv.timeouts.isSome then [] else [Block.timeouts])
      let r' := finalizeBaseRecord { r.2 with srv := σ.srv }
      r'.heap.live.Perm ([] ++ out) ∧ r'.heap.badFrees = [] ++ out := by
  intro a r
  have r0 : Reach (fun _ => True) _ _ :=
    .init (dbusServerInitBase_init a "unix:tmpdir=/tmp" "0123" ⟨[], []⟩ rfl).2
  have r1 := r0.step (.thread 0 (.call .disconnect trivial rfl rfl (by decide)))
  have r2 := r1.step (.thread 0 (.disconnectFirst rfl rfl))
  have r3 := r2.step (.thread 0 .vtableDone)
  have r4 := r3.step (.thread 0 .disconnectUnlock)
  have r5 := r4.step (.thread 0 .disconnectUnref)
  have r6 := r5.step (.thread 0 (.unref trivial rfl (by decide) (by decide)))
  have r7 := r6.step (.thread 0 .finalizeSlots)
  exact ⟨_, r7, rfl, rfl, heap_restored_at_finalize a _ _ ⟨[], []⟩ rfl rfl r7 rfl⟩

end DBus
