import WlhHpm.Bootuf2.Update
import WlhHpm.Bootuf2.Sectors
import WlhHpm.Usb.Session

/-!
# An update over the wire

The disk of the bootloader behind the mass-storage class. The main loop polls for the end of the update
while the endpoint callbacks run, so polls come between any two events of the bus, also between two
blocks of one command (`SysEvent`). `update_over_usb`: a host writes the blocks of a packed file in any
division into commands, with reads, repeats and sectors of its own in between; whenever a poll reports
the end, at the end of a command or inside one, the `app` partition holds the image. The flash does
not fail (`Rom.Healthy`), and the commands are well-formed, for unit 0 and inside the disk
(`HostCmd.Fine`).

`At` says where a device stands in a session: what will happen on the bus, each event with the block
that it writes. It does not depend on the storage, so that polls keep it.
-/

namespace WlhHpm.Usb
open WlhHpm.Bootuf2 WlhHpm.Flash

/-! ## The disk of the bootloader -/

/-- C `usbd_msc_sector_read` and `usbd_msc_sector_write`; both return 0. -/
def bootuf2Storage (built : Volume.BuildTime) (files : Volume.Files) (fw : FlashWrite Chip) :
    Storage (Bootuf2Data Chip) where
  read ctx _ sector buffer length :=
    (ctx, Volume.boot2uf2ReadSector built files sector buffer
      (length.toNat / configBootuf2SectorSize), 0)
  write ctx _ _ buffer length := (usbdMscSectorWrite fw ctx buffer length, 0)

/-- C `bootuf2_get_sector_count` and `bootuf2_get_sector_size`. -/
def bootuf2GetSectorCount : UInt32 :=
  Volume.bootuf2Dbr.sectorsOver32MB + Volume.bootuf2Dbr.sectors.toUInt32
def bootuf2GetSectorSize : UInt32 := Volume.bootuf2Dbr.bytesPerSector.toUInt32

/-- The sector that a read finds. -/
def sectorOf (built : Volume.BuildTime) (files : Volume.Files) (_ : Bootuf2Data Chip)
    (sector : UInt32) : List UInt8 :=
  (Volume.readOne built files.list sector fun _ => 0).toList 512

/-- The disk of the bootloader serves every access, and its reads change nothing. -/
lemma bootuf2Storage_sound (built : Volume.BuildTime) (files : Volume.Files)
    (fw : FlashWrite Chip) : (bootuf2Storage built files fw).Sound (sectorOf built files) where
  write _ _ _ := rfl
  read _ _ _ := rfl
  kept _ _ _ := rfl
  data _ sector buffer := Mem.toList_congr fun _ lt =>
    (Volume.readSector_one built sector buffer lt).trans (Volume.readOne_same built sector _ _ lt)

/-! ## Where a session stands -/

/-- The events of a command, each with the block that it writes. -/
def HostCmd.steps : HostCmd → List (BusEvent × Option (List UInt8))
  | .write cbw _ blocks =>
    (.outDone cbw, none) :: (blocks.map (fun data => (.outDone data, some data)) ++ [(.inDone, none)])
  | .read cbw _ count =>
    (.outDone cbw, none) :: (List.replicate count.toNat (.inDone, none) ++ [(.inDone, none)])

/-- They are the events of the command. -/
lemma HostCmd.map_steps (cmd : HostCmd) : cmd.steps.map Prod.fst = cmd.events := by
  cases cmd with
  | write cbw lba blocks => simp [steps, events]
  | read cbw lba count => simp [steps, events]

/-- The blocks that have been written in the first `n` events of a session. -/
def received (cmds : List HostCmd) (n : Nat) : List (List UInt8) :=
  ((cmds.flatMap HostCmd.steps).take n).filterMap Prod.snd

/-- What is left of a session. -/
inductive At {σ : Type} (N : UInt32) : MscDev σ → List (BusEvent × Option (List UInt8)) → Prop where
  | ready {d} (cmds : List HostCmd) (ready : d.Ready N) (fine : ∀ cmd ∈ cmds, cmd.Fine N) :
    At N d (cmds.flatMap HostCmd.steps)
  | writing {d lba} (pieces : List (List UInt8)) (cmds : List HostCmd)
    (writing : d.Writing N lba pieces.length) (nonempty : pieces ≠ [])
    (len : ∀ data ∈ pieces, data.length = 512) (fine : ∀ cmd ∈ cmds, cmd.Fine N) :
    At N d (pieces.map (fun data => (.outDone data, some data)) ++
      (.inDone, none) :: cmds.flatMap HostCmd.steps)
  | reading {d lba n} (cmds : List HostCmd) (reading : d.Reading N lba n)
    (fine : ∀ cmd ∈ cmds, cmd.Fine N) :
    At N d (List.replicate (n + 1) (.inDone, none) ++ (.inDone, none) :: cmds.flatMap HostCmd.steps)
  | waiting {d} (cmds : List HostCmd) (waiting : d.Waiting N) (fine : ∀ cmd ∈ cmds, cmd.Fine N) :
    At N d ((.inDone, none) :: cmds.flatMap HostCmd.steps)

section Storage
variable {σ : Type} {st : Storage σ} {d : MscDev σ} {N : UInt32}
  {rest : List (BusEvent × Option (List UInt8))} {disk : σ → UInt32 → List UInt8}

/-- What happens to the storage does not matter to the session. -/
lemma At.storage (at' : At N d rest) (s : σ) : At N { d with storage := s } rest := by
  cases at' with
  | ready cmds ready fine =>
    exact .ready cmds ⟨⟨ready.size, ready.nbr⟩, ready.stage, ready.out, ready.inn⟩ fine
  | writing pieces cmds writing nonempty len fine =>
    exact .writing pieces cmds
      { size := writing.size
        nbr := writing.nbr
        lun := writing.lun
        sector := writing.sector
        left := writing.left
        residue := writing.residue
        range := writing.range
        stage := writing.stage
        writes := writing.writes
        out := writing.out
        inn := writing.inn } nonempty len fine
  | reading cmds reading fine =>
    exact .reading cmds
      { size := reading.size
        nbr := reading.nbr
        lun := reading.lun
        sector := reading.sector
        left := reading.left
        residue := reading.residue
        range := reading.range
        stage := reading.stage
        reads := reading.reads
        out := reading.out
        inn := reading.inn } fine
  | waiting cmds waiting fine =>
    exact .waiting cmds ⟨⟨waiting.size, waiting.nbr⟩, waiting.stage, waiting.out, waiting.inn⟩ fine

/-- An event of the bus writes its block, if it has one, and else leaves the storage alone. -/
lemma At.step (sound : st.Sound disk) (small : N.toNat * 512 < 2 ^ 32) {ev : BusEvent}
    {block : Option (List UInt8)} (at' : At N d ((ev, block) :: rest)) :
    At N (d.step st ev) rest ∧
      (block = none ∧ (d.step st ev).storage = d.storage ∨
        ∃ buffer lba, block = some (buffer.toList 512) ∧
          (d.step st ev).storage =
            (st.write d.storage 0 lba buffer configUsbdevMscMaxBufsize).1) := by
  generalize left : (ev, block) :: rest = steps at at'
  cases at' with
  | ready cmds ready fine =>
    cases cmds with
    | nil => cases left
    | cons cmd cmds =>
      have fine' : ∀ cmd ∈ cmds, cmd.Fine N := fun c mem => fine c (by simp [mem])
      cases cmd with
      | write cbw lba blocks =>
        obtain ⟨len, pieces, code, count, writes, cbwBlock, eq⟩ := fine _ List.mem_cons_self
        obtain ⟨writing, -, storage, -⟩ := ready.start_write small st len cbwBlock writes
        rw [eq] at writing
        have nonempty : blocks ≠ [] := List.ne_nil_of_length_pos (eq ▸ cbwBlock.some)
        rw [List.flatMap_cons, HostCmd.steps, List.cons_append, List.append_assoc] at left
        cases left
        exact ⟨.writing blocks cmds writing nonempty pieces fine', .inl ⟨rfl, storage⟩⟩
      | read cbw lba count =>
        obtain ⟨len, code, reads, cbwBlock⟩ := fine _ List.mem_cons_self
        obtain ⟨n, eq⟩ := Nat.exists_eq_succ_of_ne_zero cbwBlock.some.ne'
        obtain ⟨reading, -, storage, -⟩ := ready.start_read sound small len cbwBlock reads eq
        rw [List.flatMap_cons, HostCmd.steps, List.cons_append, List.append_assoc, eq] at left
        cases left
        exact ⟨.reading cmds reading fine', .inl ⟨rfl, storage⟩⟩
  | writing pieces cmds writing nonempty len fine =>
    cases pieces with
    | nil => exact absurd rfl nonempty
    | cons data pieces =>
      obtain ⟨buffer, rfl, storage, last, more⟩ :=
        writing.piece sound small (len data List.mem_cons_self)
      cases left
      refine ⟨?_, .inr ⟨buffer, _, rfl, storage⟩⟩
      cases pieces with
      | nil => exact .waiting cmds (last rfl).1 fine
      | cons data' pieces =>
        exact .writing _ cmds (more (by simp)).1 (by simp) (fun x mem => len x (by simp [mem])) fine
  | @reading lba n cmds reading fine =>
    cases n with
    | zero =>
      obtain ⟨waiting, storage, -⟩ := reading.last st
      cases left
      exact ⟨.waiting cmds waiting fine, .inl ⟨rfl, storage⟩⟩
    | succ n =>
      obtain ⟨next, storage, -, -⟩ := reading.next sound small
      cases left
      exact ⟨.reading cmds next fine, .inl ⟨rfl, storage⟩⟩
  | waiting cmds waiting fine =>
    obtain ⟨ready, storage, -⟩ := waiting.step st
    cases left
    exact ⟨.ready cmds ready fine, .inl ⟨rfl, storage⟩⟩

/-- A session configures nothing. -/
lemma At.not_configured (at' : At N d rest) : BusEvent.configured ∉ rest.map Prod.fst := by
  have quiet : ∀ cmds : List HostCmd,
      BusEvent.configured ∉ (cmds.flatMap HostCmd.steps).map Prod.fst := by
    intro cmds mem
    rw [List.map_flatMap] at mem
    obtain ⟨cmd, -, mem⟩ := List.mem_flatMap.mp mem
    rw [cmd.map_steps] at mem
    cases cmd <;> simp [HostCmd.events] at mem
  cases at' with
  | ready cmds => exact quiet cmds
  | writing pieces cmds =>
    rw [List.map_append, List.map_cons]
    simp [quiet cmds]
  | reading cmds =>
    rw [List.map_append, List.map_cons]
    simp [quiet cmds]
  | waiting cmds =>
    rw [List.map_cons]
    simp [quiet cmds]

end Storage

/-! ## The bootloader -/

/-- An event of the bus, or a poll of the main loop. -/
inductive SysEvent where
  | bus (ev : BusEvent)
  | poll

/-- The event of the bus, if it is one. -/
def SysEvent.busEvent : SysEvent → Option BusEvent
  | .bus ev => some ev
  | .poll => none

/-- Effect of an event. A configuration is passed on to the disk (C `usbd_event_handler`). -/
def SysEvent.step (st : Storage (Bootuf2Data Chip)) (fw : FlashWrite Chip)
    (d : MscDev (Bootuf2Data Chip)) : SysEvent → MscDev (Bootuf2Data Chip)
  | .bus ev =>
    let d := d.step st ev
    if ev = .configured then { d with storage := bootuf2Init d.storage } else d
  | .poll => { d with storage := (bootuf2IsWriteDone fw d.storage).1 }

/-- The events of the disk, polls included, that write some blocks. -/
inductive Stores : List (List UInt8) → List Op → Prop where
  | nil : Stores [] []
  | poll {written ops} : Stores written ops → Stores written (.poll :: ops)
  | sector {written ops data} (buff : Mem) : buff.toList 512 = data → Stores written ops →
    Stores (data :: written) (.sector buff :: ops)

/-- A host copies the blocks of a file, from block `k` to block `k'`, with repeats and with sectors
    of its own. -/
inductive Copy (blocks : List (List UInt8)) : Nat → List (List UInt8) → Nat → Prop where
  | nil {k} : Copy blocks k [] k
  | other {k written k' data} : ¬ Accepts (.ofBuff (Mem.ofList data)) → Copy blocks k written k' →
    Copy blocks k (data :: written) k'
  | again {k written k' i data} : i < k → blocks[i]? = some data → Copy blocks k written k' →
    Copy blocks k (data :: written) k'
  | next {k written k' data} : blocks[k]? = some data → Copy blocks (k + 1) written k' →
    Copy blocks k (data :: written) k'

/-- A memory that is written out and read in again. -/
lemma ofList_toList (m : Mem) {n i : Nat} (lt : i < n) : Mem.ofList (m.toList n) i = m i := by
  rw [Mem.ofList_get (by rw [Mem.toList_length]; exact lt)]
  simp only [Mem.toList, List.getElem_map, List.getElem_range]

/-- Whether a sector is taken depends on its 512 bytes only. -/
lemma accepts_congr (buff : Mem) :
    Accepts (.ofBuff (Mem.ofList (buff.toList 512))) ↔ Accepts (.ofBuff buff) := by
  have word : ∀ a, a + 3 < 512 → Word.le32 (Mem.ofList (buff.toList 512)) a = Word.le32 buff a := by
    intro a lt
    rw [Word.le32, Word.le32, ofList_toList buff (i := a) (by omega),
      ofList_toList buff (i := a + 1) (by omega), ofList_toList buff (i := a + 2) (by omega),
      ofList_toList buff (i := a + 3) lt]
  simp only [Accepts, Bootuf2Block.ofBuff, word 0 (by decide), word 4 (by decide),
    word 8 (by decide), word 28 (by decide), word 508 (by decide)]

/-- What the disk sees of a copy. -/
lemma Copy.inOrder {blocks written : List (List UInt8)} {ops : List Op} {k k' : Nat}
    (copy : Copy blocks k written k') (stores : Stores written ops) : InOrder blocks k ops k' := by
  induction stores generalizing k with
  | nil =>
    cases copy
    exact .nil
  | poll _ ih => exact .poll (ih copy)
  | sector buff holds _ ih =>
    cases copy with
    | other no copy =>
      rw [← holds, accepts_congr] at no
      exact .other no (ih copy)
    | again lt get copy =>
      rw [← holds] at get
      exact .again lt get (ih copy)
    | next get copy =>
      rw [← holds] at get
      exact .next get (ih copy)

/-- Writing never configures the disk. -/
lemma Stores.initIdle {fw : FlashWrite Chip} {written : List (List UInt8)} {ops : List Op}
    (stores : Stores written ops) (ctx : Bootuf2Data Chip) :
    Along (Op.step fw) InitIdle ctx ops := by
  induction stores generalizing ctx with
  | nil => trivial
  | poll _ ih => exact ⟨trivial, ih _⟩
  | sector buff _ _ ih => exact ⟨trivial, ih _⟩

section Run
variable (built : Volume.BuildTime) (files : Volume.Files) (fw : FlashWrite Chip)
  {d : MscDev (Bootuf2Data Chip)} {N : UInt32}

/-- What the disk sees of the first events of a session. -/
lemma At.run (small : N.toNat * 512 < 2 ^ 32) {evs : List SysEvent}
    {steps rest : List (BusEvent × Option (List UInt8))} (at' : At N d (steps ++ rest))
    (bus : evs.filterMap SysEvent.busEvent = steps.map Prod.fst) :
    ∃ ops, Stores (steps.filterMap Prod.snd) ops ∧
      (evs.foldl (SysEvent.step (bootuf2Storage built files fw) fw) d).storage =
        ops.foldl (Op.step fw) d.storage := by
  induction evs generalizing d steps with
  | nil =>
    rw [List.map_eq_nil_iff.mp bus.symm]
    exact ⟨[], .nil, rfl⟩
  | cons ev evs ih =>
    cases ev with
    | poll =>
      obtain ⟨ops, stores, storage⟩ := ih (at'.storage (bootuf2IsWriteDone fw d.storage).1) bus
      exact ⟨.poll :: ops, .poll stores, storage⟩
    | bus ev =>
      cases steps with
      | nil => cases bus
      | cons step steps =>
        obtain ⟨_, block⟩ := step
        obtain ⟨rfl, later⟩ := List.cons.inj bus
        have quiet : ev ≠ .configured := fun eq => at'.not_configured (eq ▸ List.mem_cons_self)
        have step_eq : SysEvent.step (bootuf2Storage built files fw) fw d (.bus ev) =
            d.step (bootuf2Storage built files fw) ev := if_neg quiet
        rw [List.foldl_cons, step_eq]
        obtain ⟨next, ⟨rfl, same⟩ | ⟨buffer, lba, rfl, stored⟩⟩ :=
          At.step (bootuf2Storage_sound built files fw) small at'
        · obtain ⟨ops, stores, storage⟩ := ih next later
          rw [same] at storage
          exact ⟨ops, stores, storage⟩
        · obtain ⟨ops, stores, storage⟩ := ih next later
          rw [stored] at storage
          exact ⟨.sector buffer :: ops, .sector buffer rfl stores, storage⟩

end Run

/-- A packed image that is copied over USB to flash that does not fail, in any division into
    well-formed commands inside the disk and with polls at any point. After any part of the session, a
    poll reports the end exactly if all blocks have been written and the image does not fill the
    partition; the image is then in the `app` partition; and no other sector of the flash has
    changed. -/
theorem update_over_usb (built : Volume.BuildTime) (files : Volume.Files) (rom : Rom)
    (healthy : rom.Healthy) (mem : Mem) (image : List UInt8) (blocks : List (List UInt8))
    (packed : Uf2Pack.main image = .ok blocks) (cmds : List HostCmd)
    (fine : ∀ cmd ∈ cmds, cmd.Fine bootuf2GetSectorCount) (n k : Nat)
    (copy : Copy blocks 0 (received cmds n) k) (evs : List SysEvent)
    (session : evs.filterMap SysEvent.busEvent = (cmds.flatMap HostCmd.events).take n)
    (other : UInt8 → UInt32 × UInt32) :
    let fw := bootuf2FlashWrite rom
    let d := (.bus .configured :: evs).foldl (SysEvent.step (bootuf2Storage built files fw) fw)
      (.usbdMscInitIntf bootuf2GetSectorCount bootuf2GetSectorSize other (.reset ⟨mem, []⟩))
    let last := bootuf2IsWriteDone fw d.storage
    (last.2 = true ↔ k = blocks.length ∧ image.length ≤ Uf2Pack.appSize - Uf2Pack.payload) ∧
      (last.2 = true → HoldsImage last.1.flash.mem image) ∧
      ∀ i, (∀ a < (Uf2Pack.padded image).length, (appOffset + a) / 4096 ≠ i / 4096) →
        last.1.flash.mem i = mem i := by
  intro fw d last
  obtain ⟨nz, limit⟩ := Uf2Pack.count_bounds packed
  have ready : (SysEvent.step (bootuf2Storage built files fw) fw (.usbdMscInitIntf
      bootuf2GetSectorCount bootuf2GetSectorSize other (.reset ⟨mem, []⟩)) (.bus .configured)).Ready
        bootuf2GetSectorCount := ⟨⟨rfl, rfl⟩, rfl, rfl, rfl⟩
  have start := At.ready cmds ready fine
  rw [← List.take_append_drop n (cmds.flatMap HostCmd.steps)] at start
  have bus : evs.filterMap SysEvent.busEvent =
      ((cmds.flatMap HostCmd.steps).take n).map Prod.fst := by
    rw [session, List.map_take, List.map_flatMap]
    simp only [HostCmd.map_steps]
  obtain ⟨ops, stores, storage⟩ := start.run built files fw (by decide) bus
  obtain ⟨b, pr⟩ := (copy.inOrder stores).progress healthy mem packed (stores.initIdle _)
  have same : d.storage = ops.foldl (Op.step fw) (.reset ⟨mem, []⟩) := storage
  obtain ⟨iff, holds⟩ := pr.is_write_done healthy nz limit
  rw [← same] at iff holds
  refine ⟨?_, fun done => holdsImage_of_stream (holds done), fun i out => ?_⟩
  · refine iff.trans (and_congr (by rw [blocks_length packed]) ?_)
    rw [Uf2Pack.count_eq]
    unfold Uf2Pack.appSize Uf2Pack.payload
    omega
  · have after := pr.poll healthy nz limit
    rw [← same] at after
    rw [Uf2Pack.padded_length] at out
    exact after.frame out

/-- A command block that writes two blocks from the first data sector on. -/
def writeCbw : List UInt8 :=
  [0x55, 0x53, 0x42, 0x43, 9, 0, 0, 0, 0, 4, 0, 0, 0, 0, 10, 0x2a, 0, 0, 0, 2, 5, 0, 0, 2] ++
    List.replicate 7 0

/-- A host sends the two blocks of an image in one command. -/
def twoBlockSession : List HostCmd := [.write writeCbw 0x205 (twoPacked 0x41)]

/-- The command is well-formed and in range. -/
lemma twoBlockSession_fine : ∀ cmd ∈ twoBlockSession, cmd.Fine bootuf2GetSectorCount := by
  intro cmd mem
  rw [List.mem_singleton.mp mem]
  refine ⟨by decide, ?_, .write10, 2, .inl rfl, ?_, rfl⟩
  · intro data mem
    obtain ⟨i, lt, rfl⟩ := List.getElem_of_mem mem
    have get := (List.getElem?_eq_getElem lt).symm.trans (twoPacked_get 0x41 lt)
    rw [Option.some.inj get, Mem.toList_length]
  · exact
      { signature := by decide +kernel
        length := by decide +kernel
        reads := fun reads => by rcases reads with h | h <;> cases h
        writes := fun _ => by decide +kernel
        lun := by decide +kernel
        cbLength := by decide +kernel
        opcode := by decide +kernel
        first := by decide +kernel
        count := by decide +kernel
        some := by decide
        range := by decide +kernel }

/-- The main loop polls between the command block and its data, and between the two blocks; the status
    has not been taken yet. -/
def twoBlockEvents : List SysEvent :=
  [.bus (.outDone writeCbw), .poll,
    .bus (.outDone (Uf2Pack.block (Uf2Pack.padded (twoBlocks 0x41)) 2 0)), .poll,
    .bus (.outDone (Uf2Pack.block (Uf2Pack.padded (twoBlocks 0x41)) 2 1))]

/-- The two-block image is complete before the command that writes it is. -/
theorem update_over_usb_two_blocks :
    let fw := bootuf2FlashWrite .sample
    let d := (.bus .configured :: twoBlockEvents).foldl
      (SysEvent.step (bootuf2Storage ⟨2025, 1, 1, 0, 0, 0⟩ (Volume.bootuf2Init true .reset) fw) fw)
      (.usbdMscInitIntf bootuf2GetSectorCount bootuf2GetSectorSize noOther
        (.reset ⟨fun _ => 0, []⟩))
    let last := bootuf2IsWriteDone fw d.storage
    last.2 = true ∧ HoldsImage last.1.flash.mem (twoBlocks 0x41) := by
  have update := update_over_usb ⟨2025, 1, 1, 0, 0, 0⟩ (Volume.bootuf2Init true .reset) .sample
    Rom.sample_healthy (fun _ => 0) (twoBlocks 0x41) _ (packed_two 0x41) twoBlockSession
    twoBlockSession_fine 3 2 (.next rfl (.next rfl .nil)) twoBlockEvents rfl noOther
  have done := update.1.mpr ⟨rfl, by rw [twoBlocks, List.length_replicate]; decide⟩
  exact ⟨done, update.2.1 done⟩

end WlhHpm.Usb
