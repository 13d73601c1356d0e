import WlhHpm.Lib.Word

/-!
# The boot decision

Model of `bootloader/src/bl_state.c` and of the decision in `main` whether to stay in the bootloader.
FlashDB is a persistent store of byte strings: a read (`fdb_kv_get_blob`) copies at most the asked
number of bytes and returns how many it copied, a write (`fdb_kv_set_blob`) replaces the value or
fails and leaves it. Which calls fail in a boot is part of the input (`Boot`).

A history (`Event`) is any sequence of boots and of values that the application writes to
`bl.force_bootloader` in between; these may have any length. `boot_decision` is the account of a boot
after any history: the counter in the store is the length of the run of watchdog resets that ends
with this boot, and the decision follows from it, from the flag and from the signature of the
application.
-/

namespace WlhHpm.Bootloader

/-- The keys of the store. -/
inductive Key where
  /-- `"bl.fail_count"` -/
  | failCount
  /-- `"bl.force_bootloader"` -/
  | forceBl
deriving DecidableEq

/-- The contents of the FlashDB database `bl_state`. -/
abbrev Store := Key → Option (List UInt8)

/-- The bytes that a read of at most `size` bytes copies (C `fdb_kv_get_blob`). -/
def fdbKvGetBlob (db : Store) (key : Key) (size : Nat) : List UInt8 :=
  match db key with
  | none => []
  | some v => v.take size

/-- A write that succeeds or leaves the old value (C `fdb_kv_set_blob`). -/
def fdbKvSetBlob (ok : Bool) (db : Store) (key : Key) (v : List UInt8) : Store × Bool :=
  if ok then (Function.update db key (some v), true) else (db, false)

/-- Read a word over `value`, of which a short read leaves the upper bytes (C `get_u32`). -/
def getU32 (db : Store) (key : Key) (value : UInt32) : UInt32 × Bool :=
  let got := fdbKvGetBlob db key 4
  (Word.le32 (Mem.ofList (got ++ (Word.le32Bytes value).drop got.length)) 0, got.length == 4)

/-- Write a word (C `set_u32`). -/
def setU32 (ok : Bool) (db : Store) (key : Key) (value : UInt32) : Store × Bool :=
  fdbKvSetBlob ok db key (Word.le32Bytes value)

def pporResetWdog0 : UInt32 := 0x10000
def blFailLimit : UInt32 := 5
def uint32Max : UInt32 := 0xffffffff

/-- What a boot meets: the reset flags, the signature of the application, and which calls into the
    store succeed. -/
structure Boot where
  resetFlags : UInt32
  appValid : Bool
  initOk : Bool
  setCountOk : Bool
  setForceOk : Bool
  clearForceOk : Bool

/-- The module state of `bl_state.c`; `state_ready` is false after a reset. -/
structure BlState where
  db : Store
  stateReady : Bool

/-- Open the database (C `bl_state_init`). -/
def blStateInit (b : Boot) (s : BlState) : BlState × Bool :=
  if !b.initOk then (s, false) else ({ s with stateReady := true }, true)

/-- The counter that this boot stores. -/
def nextCount (db : Store) (resetStatus : UInt32) : UInt32 :=
  if resetStatus &&& pporResetWdog0 ≠ 0 then
    let count := (getU32 db .failCount 0).1
    if count < uint32Max then count + 1 else count
  else 0

/-- Count the watchdog resets, and ask for the bootloader at the limit
    (C `bl_state_update_for_reset`; the second component is `*fail_count`). -/
def blStateUpdateForReset (b : Boot) (s : BlState) (failCount : UInt32) :
    BlState × UInt32 × Bool :=
  if !s.stateReady then (s, failCount, false)
  else
    let count := nextCount s.db b.resetFlags
    let r := setU32 b.setCountOk s.db .failCount count
    let s := { s with db := r.1 }
    if !r.2 then (s, failCount, false)
    else if count ≥ blFailLimit then
      let r := setU32 b.setForceOk s.db .forceBl 1
      let s := { s with db := r.1 }
      if !r.2 then (s, failCount, false) else (s, count, true)
    else (s, count, true)

/-- Read the one-shot flag and clear it (C `bl_state_should_stay`). -/
def blStateShouldStay (b : Boot) (s : BlState) : BlState × Bool :=
  if !s.stateReady then (s, false)
  else
    let r := getU32 s.db .forceBl 0
    let stay := r.2 && decide (r.1 ≠ 0)
    if stay then
      let c := setU32 b.clearForceOk s.db .forceBl 0
      ({ s with db := c.1 }, stay)
    else (s, stay)

/-- What a boot leaves behind: the store, whether `bl_state_should_stay` was reached, and whether it
    stays in the bootloader. -/
structure Outcome where
  db : Store
  reached : Bool
  stay : Bool

/-- The decision of `main`; both conditions are evaluated from left to right and no further than
    needed. -/
def main (b : Boot) (db : Store) : Outcome :=
  let i := blStateInit b { db := db, stateReady := false }
  if !i.2 then { db := i.1.db, reached := false, stay := true }
  else
    let u := blStateUpdateForReset b i.1 0
    if !u.2.2 then { db := u.1.db, reached := false, stay := true }
    else
      let f := blStateShouldStay b u.1
      { db := f.1.db, reached := true, stay := f.2 || !b.appValid }

/-- An event in the life of the device. -/
inductive Event where
  | boot (b : Boot)
  /-- the application writes `bl.force_bootloader` -/
  | force (v : List UInt8)

/-- Effect of an event on the store. -/
def Event.step (db : Store) : Event → Store
  | .boot b => (main b db).db
  | .force v => Function.update db .forceBl (some v)

/-- The store of a new device. -/
def Store.empty : Store := fun _ => none

/-! ## What the decision is about -/

/-- The watchdog caused this reset. -/
def Boot.Wdg (b : Boot) : Prop := b.resetFlags &&& pporResetWdog0 ≠ 0

instance (b : Boot) : Decidable b.Wdg := inferInstanceAs (Decidable (_ ≠ _))

/-- No call into the store fails in this boot. -/
def Boot.NoFault (b : Boot) : Prop :=
  b.initOk = true ∧ b.setCountOk = true ∧ b.setForceOk = true ∧ b.clearForceOk = true

instance (b : Boot) : Decidable b.NoFault := inferInstanceAs (Decidable (_ ∧ _))

/-- No call into the store fails in this event. -/
def Event.NoFault : Event → Prop
  | .boot b => b.NoFault
  | .force _ => True

/-- A `set` inside `bl_state_update_for_reset` fails: the first one, or the second one where it is
    made. -/
def Boot.UpdateFails (b : Boot) (db : Store) : Prop :=
  b.setCountOk = false ∨ (nextCount db b.resetFlags ≥ blFailLimit ∧ b.setForceOk = false)

/-- The boot of an event, if it is one. -/
def Event.boot? : Event → Option Boot
  | .boot b => some b
  | .force _ => none

/-- Length of the run of consecutive boots with the `WDG0` flag that ends a history. -/
def wdgRun (l : List Event) : Nat :=
  ((l.filterMap Event.boot?).reverse.takeWhile fun b => decide b.Wdg).length

/-- The word stored under a key; a value of less than four bytes is not one. -/
def Store.word? (db : Store) (key : Key) : Option UInt32 :=
  match db key with
  | none => none
  | some v => if v.length < 4 then none else some (Word.le32 (Mem.ofList v) 0)

/-- The flag `bl.force_bootloader` is non-zero. -/
def Store.ForceSet (db : Store) : Prop := ∃ w, db.word? .forceBl = some w ∧ w ≠ 0

/-! ## Reads and writes of words -/

/-- A word depends on four bytes only. -/
lemma le32_ofList_congr {l l' : List UInt8} (h : ∀ i < 4, l[i]? = l'[i]?) :
    Word.le32 (Mem.ofList l) 0 = Word.le32 (Mem.ofList l') 0 := by
  have byte (i : Nat) (lt : i < 4) : Mem.ofList l i = Mem.ofList l' i := by
    simp only [Mem.ofList, List.getD_eq_getElem?_getD, h i lt]
  simp only [Word.le32, Nat.zero_add, byte 0 (by decide), byte 1 (by decide), byte 2 (by decide),
    byte 3 (by decide)]

/-- Reading a stored word. -/
lemma getU32_of_word {db : Store} {key : Key} {w : UInt32} (h : db.word? key = some w)
    (value : UInt32) : getU32 db key value = (w, true) := by
  unfold Store.word? at h
  unfold getU32 fdbKvGetBlob
  cases e : db key with
  | none => simp [e] at h
  | some v =>
    simp only [e] at h ⊢
    split at h
    · cases h
    · rename_i long
      have len : (v.take 4).length = 4 := by
        rw [List.length_take]
        omega
      injection h with h
      rw [len, ← h]
      refine Prod.ext (le32_ofList_congr fun i lt => ?_) rfl
      rw [List.getElem?_append_left (by omega), List.getElem?_take_of_lt lt]

/-- Reading where no word is stored fails. -/
lemma getU32_of_none {db : Store} {key : Key} (h : db.word? key = none) (value : UInt32) :
    (getU32 db key value).2 = false := by
  unfold Store.word? at h
  unfold getU32 fdbKvGetBlob
  cases e : db key with
  | none => rfl
  | some v =>
    simp only [e] at h ⊢
    split at h
    · rename_i short
      rw [beq_eq_false_iff_ne, List.length_take]
      omega
    · cases h

/-- Reading a key that was never written leaves the value. -/
lemma getU32_of_missing {db : Store} {key : Key} (h : db key = none) (value : UInt32) :
    (getU32 db key value).1 = value := by
  simp only [getU32, fdbKvGetBlob, h, List.nil_append, List.length_nil, List.drop_zero]
  refine Word.le32_of_bytes fun j lt => ?_
  simp [Mem.ofList, List.getD_eq_getElem?_getD, List.getElem?_eq_getElem lt]

/-- A stored word is read back. -/
@[simp] lemma word_update_self (db : Store) (key : Key) (w : UInt32) :
    Store.word? (Function.update db key (some (Word.le32Bytes w))) key = some w := by
  have back : Word.le32 (Mem.ofList (Word.le32Bytes w)) 0 = w := by
    refine Word.le32_of_bytes fun j lt => ?_
    simp [Mem.ofList, List.getD_eq_getElem?_getD, List.getElem?_eq_getElem lt]
  simp [Store.word?, back]

/-- Writing one key leaves the others. -/
lemma word_update_of_ne (db : Store) {key key' : Key} (ne : key' ≠ key) (v : Option (List UInt8)) :
    Store.word? (Function.update db key v) key' = db.word? key' := by
  simp only [Store.word?, Function.update_of_ne ne]

/-! ## One boot -/

/-- The store after the counter and, at the limit, the flag have been written. -/
def afterUpdate (b : Boot) (db : Store) : Store :=
  let count := nextCount db b.resetFlags
  let db := Function.update db .failCount (some (Word.le32Bytes count))
  if count ≥ blFailLimit then Function.update db .forceBl (some (Word.le32Bytes 1)) else db

/-- What `bl_state_update_for_reset` does if its writes succeed. -/
lemma update_of_ok {b : Boot} {db : Store} (ok : ¬ b.UpdateFails db) (failCount : UInt32) :
    blStateUpdateForReset b ⟨db, true⟩ failCount =
      (⟨afterUpdate b db, true⟩, nextCount db b.resetFlags, true) := by
  simp only [Boot.UpdateFails, not_or, Bool.not_eq_false, not_and] at ok
  simp only [blStateUpdateForReset, afterUpdate, setU32, fdbKvSetBlob, ok.1, Bool.not_true,
    Bool.false_eq_true, if_false, if_true]
  by_cases limit : nextCount db b.resetFlags ≥ blFailLimit
  · simp [limit, ok.2 limit]
  · simp [limit]

/-- It reports a write that fails. -/
lemma update_of_fails {b : Boot} {db : Store} (bad : b.UpdateFails db) (failCount : UInt32) :
    (blStateUpdateForReset b ⟨db, true⟩ failCount).2.2 = false := by
  simp only [blStateUpdateForReset, setU32, fdbKvSetBlob]
  rcases bad with bad | ⟨limit, bad⟩
  · simp [bad]
  · cases b.setCountOk with
    | false => simp
    | true => simp [limit, bad]

/-- The flag is what makes `bl_state_should_stay` answer yes. -/
lemma shouldStay_iff (b : Boot) (db : Store) :
    (blStateShouldStay b ⟨db, true⟩).2 = true ↔ db.ForceSet := by
  have answer : (blStateShouldStay b ⟨db, true⟩).2 =
      ((getU32 db .forceBl 0).2 && decide ((getU32 db .forceBl 0).1 ≠ 0)) := by
    simp only [blStateShouldStay, Bool.not_true, Bool.false_eq_true, if_false]
    split <;> rfl
  rw [answer]
  cases e : db.word? .forceBl with
  | none => simp [getU32_of_none e, Store.ForceSet, e]
  | some w => simp [getU32_of_word e, Store.ForceSet, e]

/-- `bl_state_should_stay` writes the flag and nothing else. -/
lemma shouldStay_failCount (b : Boot) (db : Store) :
    (blStateShouldStay b ⟨db, true⟩).1.db.word? .failCount = db.word? .failCount := by
  simp only [blStateShouldStay, Bool.not_true, Bool.false_eq_true, if_false, setU32, fdbKvSetBlob]
  split
  · split
    · exact word_update_of_ne db (by decide) _
    · rfl
  · rfl

/-- The flag is clear after `bl_state_should_stay`, if the write that clears it succeeds. -/
lemma shouldStay_clears {b : Boot} (ok : b.clearForceOk = true) (db : Store) :
    ¬ (blStateShouldStay b ⟨db, true⟩).1.db.ForceSet := by
  have answer := shouldStay_iff b db
  revert answer
  simp only [blStateShouldStay, Bool.not_true, Bool.false_eq_true, if_false, setU32, fdbKvSetBlob, ok]
  split
  · rename_i stay
    rintro - ⟨w, read, nz⟩
    simp only [if_true, word_update_self, Option.some.injEq] at read
    exact nz read.symm
  · rename_i stay
    exact fun answer set => stay (answer.mpr set)

/-- A boot whose calls to `bl_state_init` and `bl_state_update_for_reset` succeed. -/
lemma main_of_ok {b : Boot} {db : Store} (init : b.initOk = true) (ok : ¬ b.UpdateFails db) :
    main b db =
      { db := (blStateShouldStay b ⟨afterUpdate b db, true⟩).1.db
        reached := true
        stay := (blStateShouldStay b ⟨afterUpdate b db, true⟩).2 || !b.appValid } := by
  simp only [main, blStateInit, init, Bool.not_true, Bool.false_eq_true, if_false, update_of_ok ok]

/-- A boot in which one of them fails stays in the bootloader. -/
lemma main_of_fails {b : Boot} {db : Store} (bad : b.initOk = false ∨ b.UpdateFails db) :
    (main b db).reached = false ∧ (main b db).stay = true := by
  cases init : b.initOk with
  | false => simp [main, blStateInit, init]
  | true =>
    have fails := update_of_fails (bad.resolve_left (by simp [init])) 0
    simp [main, blStateInit, init, fails]

/-- The flag after the update: as before, or set at the limit. -/
lemma afterUpdate_forceSet (b : Boot) (db : Store) :
    (afterUpdate b db).ForceSet ↔ nextCount db b.resetFlags ≥ blFailLimit ∨ db.ForceSet := by
  unfold afterUpdate Store.ForceSet
  simp only
  split
  · rename_i limit
    simp [limit]
  · rename_i low
    simp only [low, false_or]
    rw [word_update_of_ne db (by decide)]

/-- The counter of this boot is in the store. -/
lemma afterUpdate_failCount (b : Boot) (db : Store) :
    (afterUpdate b db).word? .failCount = some (nextCount db b.resetFlags) := by
  unfold afterUpdate
  simp only
  split
  · rw [word_update_of_ne _ (by decide), word_update_self]
  · rw [word_update_self]

/-! ## Histories -/

/-- A request of the application is no boot. -/
@[simp] lemma wdgRun_force (l : List Event) (v : List UInt8) :
    wdgRun (l ++ [.force v]) = wdgRun l := by
  simp [wdgRun, Event.boot?]

/-- A boot by the watchdog goes on with the run, and another one ends it. -/
@[simp] lemma wdgRun_boot (l : List Event) (b : Boot) :
    wdgRun (l ++ [.boot b]) = if b.Wdg then wdgRun l + 1 else 0 := by
  by_cases wdg : b.Wdg <;> simp [wdgRun, Event.boot?, wdg]

/-- The store holds `n` under `bl.fail_count`, or nothing where `n` is zero. -/
def HoldsCount (db : Store) (n : UInt32) : Prop :=
  db.word? .failCount = some n ∨ (db .failCount = none ∧ n = 0)

/-- Length of a run as the counter shows it. -/
def saturated (n : Nat) : UInt32 := UInt32.ofNat (min n (2 ^ 32 - 1))

/-- The counter stops at the largest word. -/
lemma saturated_toNat (n : Nat) : (saturated n).toNat = min n (2 ^ 32 - 1) := by
  rw [saturated, UInt32.toNat_ofNat']
  omega

/-- One more watchdog reset lengthens the run by one; any other reset ends it. -/
lemma nextCount_eq {db : Store} {n : Nat} (h : HoldsCount db (saturated n)) (b : Boot) :
    nextCount db b.resetFlags = saturated (if b.Wdg then n + 1 else 0) := by
  have read : (getU32 db .failCount 0).1 = saturated n := by
    rcases h with word | ⟨missing, zero⟩
    · rw [getU32_of_word word]
    · rw [getU32_of_missing missing, zero]
  unfold nextCount
  simp only [read]
  by_cases wdg : b.Wdg
  · have wdg' : b.resetFlags &&& pporResetWdog0 ≠ 0 := wdg
    rw [if_pos wdg', if_pos wdg]
    have val := saturated_toNat n
    have max : uint32Max.toNat = 2 ^ 32 - 1 := rfl
    apply UInt32.toNat_inj.mp
    rw [saturated_toNat]
    split
    · rename_i lt
      rw [UInt32.lt_iff_toNat_lt] at lt
      have one : (1 : UInt32).toNat = 1 := rfl
      rw [UInt32.toNat_add, one]
      omega
    · rename_i ge
      rw [UInt32.lt_iff_toNat_lt] at ge
      omega
  · have wdg' : ¬ b.resetFlags &&& pporResetWdog0 ≠ 0 := wdg
    rw [if_neg wdg', if_neg wdg]
    rfl

/-- Without faults no write fails. -/
lemma not_updateFails {b : Boot} (ok : b.NoFault) (db : Store) : ¬ b.UpdateFails db := by
  obtain ⟨-, count, force, -⟩ := ok
  rintro (bad | ⟨-, bad⟩)
  · rw [count] at bad
    cases bad
  · rw [force] at bad
    cases bad

/-- Without store faults, the counter in the store is the length of the current run. -/
lemma holdsCount_run (l : List Event) (ok : ∀ e ∈ l, e.NoFault) :
    HoldsCount (l.foldl Event.step .empty) (saturated (wdgRun l)) := by
  -- induction on the history from its end: the last event decides the run
  induction l using List.reverseRecOn with
  | nil => exact .inr ⟨rfl, rfl⟩
  | append_singleton l e ih =>
    have before := ih fun e mem => ok e (by simp [mem])
    have now := ok e (by simp)
    rw [List.foldl_append, List.foldl_cons, List.foldl_nil]
    cases e with
    | boot b =>
      left
      change (main b _).db.word? _ = _
      rw [main_of_ok now.1 (not_updateFails now _), shouldStay_failCount, afterUpdate_failCount,
        nextCount_eq before, wdgRun_boot]
    | force v =>
      rw [wdgRun_force]
      rcases before with word | ⟨missing, zero⟩
      · left
        exact (word_update_of_ne _ (by decide) _).trans word
      · right
        exact ⟨missing, zero⟩

/-- The boot decision after any history. If no store operation has failed up to the end of this
    boot, it stays in the bootloader exactly when the run of watchdog resets has reached the limit,
    the flag was set, or the application is not valid; the flag is then clear and the counter is the
    length of the run. Whatever has failed, the flag is clear after a boot that reached
    `bl_state_should_stay` and could write it, and a boot in which a `set` inside
    `bl_state_update_for_reset` fails stays. -/
theorem boot_decision (l : List Event) (b : Boot) :
    let before := l.foldl Event.step .empty
    ((∀ e ∈ l ++ [.boot b], e.NoFault) →
      ((main b before).stay = true ↔
        5 ≤ wdgRun (l ++ [.boot b]) ∨ before.ForceSet ∨ b.appValid = false) ∧
      (main b before).reached = true ∧ ¬ (main b before).db.ForceSet ∧
      (main b before).db.word? .failCount =
        some (UInt32.ofNat (min (wdgRun (l ++ [.boot b])) (2 ^ 32 - 1)))) ∧
    ((main b before).reached = true → b.clearForceOk = true → ¬ (main b before).db.ForceSet) ∧
    (b.UpdateFails before → (main b before).stay = true) := by
  intro before
  have clears : (main b before).reached = true → b.clearForceOk = true →
      ¬ (main b before).db.ForceSet := by
    intro reached clear
    by_cases bad : b.initOk = false ∨ b.UpdateFails before
    · rw [(main_of_fails bad).1] at reached
      cases reached
    · obtain ⟨init, ok⟩ := not_or.mp bad
      rw [main_of_ok (by simpa using init) ok]
      exact shouldStay_clears clear _
  refine ⟨fun ok => ?_, clears, fun bad => (main_of_fails (.inr bad)).2⟩
  have now : b.NoFault := ok (.boot b) (by simp)
  have count := nextCount_eq (holdsCount_run l fun e mem => ok e (by simp [mem])) b
  rw [← wdgRun_boot l b] at count
  have run := main_of_ok now.1 (not_updateFails now before)
  have limit : nextCount before b.resetFlags ≥ blFailLimit ↔ 5 ≤ wdgRun (l ++ [.boot b]) := by
    rw [count, ge_iff_le, UInt32.le_iff_toNat_le, saturated_toNat]
    change 5 ≤ _ ↔ _
    omega
  have reached : (main b before).reached = true := by rw [run]
  refine ⟨?_, reached, clears reached now.2.2.2, ?_⟩
  · rw [run]
    simp only [Bool.or_eq_true, shouldStay_iff, afterUpdate_forceSet, limit, Bool.not_eq_true',
      or_assoc]
  · rw [run]
    simp only [shouldStay_failCount, afterUpdate_failCount]
    exact congrArg some count

/-- A boot after a watchdog reset, with a valid application and a working store. -/
def wdgBoot : Boot := ⟨0x10000, true, true, true, true, true⟩

/-- The fifth watchdog reset in a row stays in the bootloader. -/
theorem boot_decision_fifth_reset :
    (main wdgBoot ((List.replicate 4 (Event.boot wdgBoot)).foldl Event.step .empty)).stay = true := by
  have ok : ∀ e ∈ List.replicate 4 (Event.boot wdgBoot) ++ [.boot wdgBoot], e.NoFault := by
    intro e mem
    have same : e = .boot wdgBoot := by simpa using mem
    subst same
    change wdgBoot.NoFault
    decide
  exact ((boot_decision (List.replicate 4 (.boot wdgBoot)) wdgBoot).1 ok).1.mpr (.inl (by decide))

end WlhHpm.Bootloader
