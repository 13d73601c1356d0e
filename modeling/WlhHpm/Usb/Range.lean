import WlhHpm.Usb.Bot

/-!
# The blocks that a host can reach

`SCSI_read10` and its siblings refuse a command whose last block lies behind the end of the disk. The
sum of the first block and the number of blocks is 32 bits wide, so a command that wraps around is
not refused. `bot_accesses_in_range`: as long as no command wraps around and all are for unit 0, every
access to the storage stays inside the disk, whatever the host sends as data and in whatever pieces.

The runs are the orderly ones of `Usb/Bot.lean`, in which neither a mass-storage reset nor a new
configuration comes in the middle of a command. A configuration in the middle of a write lets the next
piece be longer than the blocks that are left.
-/

namespace WlhHpm.Usb

/-- An access stays inside a disk of `N` blocks of `B` bytes. -/
def InDisk (N B : UInt32) : BotEvent → Prop
  | .sectorRead sector length => sector.toNat + length.toNat / B.toNat ≤ N.toNat
  | .sectorWrite sector length => sector.toNat + length.toNat / B.toNat ≤ N.toNat
  | _ => True

namespace MscDev
variable {σ : Type} {st : Storage σ} {d : MscDev σ} {N B : UInt32}

/-- While blocks are moved, those that are left lie inside the disk, and the OUT endpoint does not wait
    for more than they hold. -/
structure InRange (N B : UInt32) (d : MscDev σ) : Prop where
  size : d.scsiBlkSize 0 = B
  nbr : d.scsiBlkNbr 0 = N
  log : ∀ e ∈ d.log, InDisk N B e
  moving : d.stage = .dataOut ∨ d.stage = .dataIn ∧ d.inn ≠ none →
    d.bLUN = 0 ∧ d.startSector.toNat + d.nsectors.toNat ≤ N.toNat
  awaited : ∀ len, d.stage = .dataOut → d.out = some (.blockBuffer, len) → len = d.pieceLen

/-- A command block is for the only unit, and its blocks do not wrap around. -/
def NoWrap (d : MscDev σ) (ev : BusEvent) : Prop :=
  ∀ data, ev = .outDone data → d.stage = .readCbw →
    (d.storeOut .cbw data).bLUN = 0 ∧
      ((d.storeOut .cbw data).cmd.Reads ∨ (d.storeOut .cbw data).cmd.Writes →
        ((d.storeOut .cbw data).getBe32 2).toNat + (d.storeOut .cbw data).blocks.toNat < 2 ^ 32)

/-! ## Counting blocks -/

/-- Some blocks of a range are moved. -/
lemma range_advance {s n k : UInt32} (range : s.toNat + n.toNat ≤ N.toNat) (le : k.toNat ≤ n.toNat) :
    (s + k).toNat + (n - k).toNat ≤ N.toNat ∧ s.toNat + k.toNat ≤ N.toNat := by
  have bound : N.toNat < 2 ^ 32 := N.toNat_lt
  have sum : (s + k).toNat = s.toNat + k.toNat := by
    rw [UInt32.toNat_add, Nat.mod_eq_of_lt (by omega)]
  have diff : (n - k).toNat = n.toNat - k.toNat := UInt32.toNat_sub_of_le _ _ (UInt32.le_iff_toNat_le.mpr le)
  omega

/-- A piece holds no more blocks than are left. -/
lemma pieceLen_le {len : UInt32} (short : len.toNat ≤ d.pieceLen.toNat) :
    (len / d.blkSize).toNat ≤ d.nsectors.toNat := by
  -- a product that wraps around is smaller still
  have product : (d.nsectors * d.blkSize).toNat ≤ d.nsectors.toNat * d.blkSize.toNat := by
    rw [UInt32.toNat_mul]
    exact Nat.mod_le _ _
  have most : d.pieceLen.toNat ≤ d.nsectors.toNat * d.blkSize.toNat := by
    rw [pieceLen, Word.toNat_ite_lt]
    exact (Nat.min_le_left _ _).trans product
  rw [UInt32.toNat_div]
  exact Nat.div_le_of_le_mul ((short.trans most).trans_eq (Nat.mul_comm _ _))

/-- The next piece of a read. -/
lemma range_read (st : Storage σ) (size : d.blkSize = B) (range : d.startSector.toNat + d.nsectors.toNat ≤ N.toNat) :
    InDisk N B (.sectorRead d.startSector d.pieceLen) ∧
      (d.afterRead st).startSector.toNat + (d.afterRead st).nsectors.toNat ≤ N.toNat := by
  have blocks := pieceLen_le (le_refl d.pieceLen.toNat)
  obtain ⟨next, inside⟩ := range_advance range blocks
  rw [UInt32.toNat_div, size] at inside
  exact ⟨inside, next⟩

/-- A piece of a write. -/
lemma range_write (st : Storage σ) (size : d.blkSize = B) (range : d.startSector.toNat + d.nsectors.toNat ≤ N.toNat)
    {nbytes : UInt32} (short : nbytes.toNat ≤ d.pieceLen.toNat) :
    InDisk N B (.sectorWrite d.startSector nbytes) ∧
      (d.afterWrite st nbytes).startSector.toNat + (d.afterWrite st nbytes).nsectors.toNat ≤
        N.toNat := by
  have blocks := pieceLen_le short
  obtain ⟨next, inside⟩ := range_advance range blocks
  rw [UInt32.toNat_div, size] at inside
  exact ⟨inside, next⟩

/-! ## One event -/

/-- One more access inside the disk. -/
lemma inDisk_snoc {l : List BotEvent} (all : ∀ e ∈ l, InDisk N B e) (x : BotEvent)
    (one : InDisk N B x) : ∀ e ∈ l ++ [x], InDisk N B e := by
  intro e mem
  rcases List.mem_append.mp mem with old | new
  · exact all e old
  · rw [List.mem_singleton.mp new]
    exact one

/-- No blocks are moved. -/
lemma InRange.quiet (size : d.scsiBlkSize 0 = B) (nbr : d.scsiBlkNbr 0 = N)
    (log : ∀ e ∈ d.log, InDisk N B e) (out : d.stage ≠ .dataOut) (inn : d.stage ≠ .dataIn) :
    d.InRange N B where
  size := size
  nbr := nbr
  log := log
  moving := fun moving => by rcases moving with w | r; exacts [absurd w out, absurd r.1 inn]
  awaited := fun _ w => absurd w out

/-- No blocks are moved once the status has been sent. -/
lemma InRange.sendCsw (size : d.scsiBlkSize 0 = B) (nbr : d.scsiBlkNbr 0 = N)
    (log : ∀ e ∈ d.log, InDisk N B e) (status : UInt8) :
    (d.usbdMscSendCsw status).InRange N B :=
  .quiet size nbr (inDisk_snoc log (.csw _) trivial) nofun nofun

/-- No blocks are moved by a command that only answers. -/
lemma InRange.answer (size : d.scsiBlkSize 0 = B) (nbr : d.scsiBlkNbr 0 = N)
    (log : ∀ e ∈ d.log, InDisk N B e) (len : UInt8) : (d.answer len).InRange N B := by
  unfold MscDev.answer
  split_ifs
  · exact .quiet size nbr (inDisk_snoc log (.dataIn _) trivial) nofun nofun
  · exact .sendCsw size nbr log _

/-- No blocks are moved after an abort. -/
lemma InRange.abort (size : d.scsiBlkSize 0 = B) (nbr : d.scsiBlkNbr 0 = N)
    (log : ∀ e ∈ d.log, InDisk N B e) (stage : d.stage = .readCbw) :
    d.usbdMscBotAbort.InRange N B := by
  have same : d.usbdMscBotAbort.stage = .readCbw := stage
  refine .quiet size nbr (inDisk_snoc log .abort trivial) ?_ ?_
  · rw [same]
    exact nofun
  · rw [same]
    exact nofun

/-- The range that a command names, after the test of `SCSI_read10` and its siblings. -/
lemma named_range (lun : d.bLUN = 0) (nbr : d.scsiBlkNbr 0 = N) {lba n : UInt32}
    (wrap : lba.toNat + n.toNat < 2 ^ 32) (tested : ¬ lba + n > d.blkNbr) :
    lba.toNat + n.toNat ≤ N.toNat := by
  have sum : (lba + n).toNat = lba.toNat + n.toNat := by
    rw [UInt32.toNat_add, Nat.mod_eq_of_lt wrap]
  rw [MscDev.blkNbr, lun, nbr] at tested
  rw [← sum]
  exact UInt32.le_iff_toNat_le.mp (UInt32.not_lt.mp tested)

/-- A read goes on inside the disk. -/
lemma InRange.afterRead (size : d.scsiBlkSize 0 = B) (nbr : d.scsiBlkNbr 0 = N)
    (log : ∀ e ∈ d.log, InDisk N B e) (stage : d.stage = .dataIn) (lun : d.bLUN = 0)
    (blocks : d.startSector.toNat + d.nsectors.toNat ≤ N.toNat) :
    (d.afterRead st).InRange N B ∧ ∀ e ∈ (d.readFailed st).log, InDisk N B e := by
  have unit : d.blkSize = B := by rw [MscDev.blkSize, lun, size]
  obtain ⟨inside, next⟩ := range_read st unit blocks
  have read := inDisk_snoc log _ inside
  refine ⟨⟨size, nbr, ?_, fun _ => ⟨lun, next⟩, ?_⟩, read⟩
  · have data := inDisk_snoc read (.dataIn ((d.readAnswer st).2.1.toList d.pieceLen.toNat)) trivial
    rw [List.append_assoc] at data
    exact data
  · intro len writing
    simp only [MscDev.afterRead, stage] at writing
    split_ifs at writing

/-- A write goes on inside the disk, or fails there. -/
lemma InRange.processWrite (range : d.InRange N B) (stage : d.stage = .dataOut) {nbytes : UInt32}
    (short : nbytes.toNat ≤ d.pieceLen.toNat) :
    (if (d.scsiProcessWrite st nbytes).1 then (d.scsiProcessWrite st nbytes).2
      else (d.scsiProcessWrite st nbytes).2.usbdMscSendCsw cswStatusCmdFailed).InRange N B := by
  obtain ⟨lun, blocks⟩ := range.moving (.inl stage)
  have size : d.blkSize = B := by rw [MscDev.blkSize, lun, range.size]
  obtain ⟨inside, next⟩ := range_write st size blocks short
  have write := inDisk_snoc range.log _ inside
  by_cases answer : (d.writeAnswer st nbytes).2 = 0
  · have log : ∀ e ∈ (d.afterWrite st nbytes).log, InDisk N B e := by
      have data := inDisk_snoc write (.dataOut nbytes) trivial
      rw [List.append_assoc] at data
      exact data
    rw [processWrite_ok answer, if_pos rfl]
    dsimp only
    split_ifs with last
    · exact .sendCsw (d := d.afterWrite st nbytes) range.size range.nbr log _
    · refine ⟨range.size, range.nbr, log, fun _ => ⟨lun, next⟩, ?_⟩
      intro len _ awaited
      exact (congrArg Prod.snd (Option.some.inj awaited)).symm
  · rw [processWrite_fail answer, if_neg Bool.false_ne_true]
    exact .sendCsw (d := d.writeFailed st nbytes) range.size range.nbr write _

/-- The command of a new command block has been run. -/
lemma InRange.decodeCmd (range : d.InRange N B) (stage : d.stage = .readCbw) (inn : d.inn = none)
    (lun : d.bLUN = 0)
    (wrap : d.cmd.Reads ∨ d.cmd.Writes → (d.getBe32 2).toNat + d.blocks.toNat < 2 ^ 32) :
    (if (d.decodeCmd st).1 then (d.decodeCmd st).2
      else (d.decodeCmd st).2.usbdMscBotAbort).InRange N B := by
  unfold MscDev.decodeCmd
  by_cases bad : d.dSignature ≠ mscCbwSignature ∨ d.bCBLength < 1 ∨ d.bCBLength > 16
  · rw [if_pos bad]
    exact .abort range.size range.nbr range.log stage
  rw [if_neg bad]
  dsimp only
  cases d.outcome_runCmd st with
  | plain same =>
    have stage' := same.stage.trans stage
    have size : (d.runCmd st).2.2.scsiBlkSize 0 = B := same.blkSize ▸ range.size
    have nbr : (d.runCmd st).2.2.scsiBlkNbr 0 = N := same.blkNbr ▸ range.nbr
    have log : ∀ e ∈ (d.runCmd st).2.2.log, InDisk N B e := same.log ▸ range.log
    by_cases ok : (d.runCmd st).1 = true
    · rw [if_pos ok, if_pos ⟨ok, stage'⟩]
      exact .answer size nbr log _
    · rw [if_neg ok, if_neg (fun both => ok both.1)]
      exact .abort size nbr log stage'
  | writing ok writes n named tested _ eq =>
    have blocks := named_range lun range.nbr (named ▸ wrap (.inr writes)) tested
    rw [if_pos ok, eq, if_neg]
    · refine ⟨range.size, range.nbr, range.log, fun _ => ⟨lun, blocks⟩, ?_⟩
      intro len _ awaited
      exact (congrArg Prod.snd (Option.some.inj awaited)).symm
    · rintro ⟨_, still⟩
      cases still
  | reading reads n named tested _ ok eq =>
    have blocks := named_range lun range.nbr (named ▸ wrap (.inl reads)) tested
    rw [ok, eq]
    generalize first : ({ d with startSector := d.getBe32 2, nsectors := n, stage := .dataIn } :
      MscDev σ) = d₁
    have stage₁ : d₁.stage = .dataIn := first ▸ rfl
    have size₁ : d₁.scsiBlkSize 0 = B := first ▸ range.size
    have nbr₁ : d₁.scsiBlkNbr 0 = N := first ▸ range.nbr
    have inn₁ : d₁.inn = none := first ▸ inn
    obtain ⟨read, failed⟩ := InRange.afterRead (d := d₁) size₁ nbr₁ (first ▸ range.log) stage₁
      (first ▸ lun) (first ▸ blocks)
    by_cases answer : (d₁.readAnswer st).2.2 = 0
    · rw [processRead_ok answer, if_pos rfl, if_neg]
      · exact read
      · exact fun both => afterRead_stage_ne stage₁ both.2
    · rw [processRead_fail answer, if_neg Bool.false_ne_true, if_neg]
      · refine ⟨size₁, nbr₁, inDisk_snoc failed .abort trivial, ?_, ?_⟩
        · rintro (writing | ⟨_, reading⟩)
          · exact absurd (writing.symm.trans stage₁) nofun
          · exact absurd inn₁ reading
        · intro len writing
          exact absurd (writing.symm.trans stage₁) nofun
      · exact fun both => Bool.false_ne_true both.1

/-- The end of an OUT transfer stays in range. -/
lemma InRange.outDone (range : d.InRange N B) (inv : d.Inv) (data : List UInt8)
    (wrap : d.NoWrap (.outDone data)) : (d.step st (.outDone data)).InRange N B := by
  by_cases there : ∃ target len, d.out = some (target, len) ∧ data.length ≤ len.toNat
  · obtain ⟨target, len, at', short⟩ := there
    rw [step_outDone at' short]
    cases inv with
    | idle stage out inn =>
      rcases out with none | cbw
      · cases none.symm.trans at'
      · cases cbw.symm.trans at'
        obtain ⟨lun, blocks⟩ := wrap data rfl stage
        have quiet : (d.storeOut .cbw data).InRange N B :=
          .quiet range.size range.nbr range.log (by rw [storeOut]; exact stage ▸ nofun)
            (by rw [storeOut]; exact stage ▸ nofun)
        rw [bulkOut_readCbw (d := d.storeOut .cbw data) stage, scsiCbwDecode]
        by_cases size : UInt32.ofNat data.length ≠ usbSizeofMscCbw
        · rw [if_pos size]
          exact .abort quiet.size quiet.nbr quiet.log stage
        · rw [if_neg size]
          have opened : (d.storeOut .cbw data).openCmd.InRange N B :=
            { quiet with log := inDisk_snoc quiet.log (.cbw _ _) trivial }
          exact opened.decodeCmd stage inn lun blocks
    | writing stage writes _ out =>
      cases out.symm.trans at'
      have stored : (d.storeOut .blockBuffer data).InRange N B :=
        ⟨range.size, range.nbr, range.log, range.moving, fun _ _ => nofun⟩
      rw [bulkOut_dataOut (d := d.storeOut .blockBuffer data) stage writes]
      refine stored.processWrite stage ?_
      rw [range.awaited len stage at'] at short
      exact (Nat.mod_le _ _).trans short
    | reading _ _ _ out => cases out.symm.trans at'
    | stuck stage out inn =>
      rcases out with none | cbw
      · cases none.symm.trans at'
      · cases cbw.symm.trans at'
        rw [bulkOut_dataIn (d := d.storeOut .cbw data) stage]
        refine ⟨range.size, range.nbr, range.log, ?_, fun _ _ => nofun⟩
        rintro (writing | ⟨_, reading⟩)
        · exact absurd (writing.symm.trans stage) nofun
        · exact absurd inn reading
    | sending _ _ out => cases out.symm.trans at'
    | waiting _ _ out => cases out.symm.trans at'
  · rw [step_outDone_none fun target len at' le => there ⟨target, len, at', le⟩]
    exact range

/-- The end of an IN transfer stays in range. -/
lemma InRange.inDone (range : d.InRange N B) (inv : d.Inv) : (d.step st .inDone).InRange N B := by
  cases given : d.inn with
  | none =>
    have still : d.step st .inDone = d := by simp only [MscDev.step, given]
    rw [still]
    exact range
  | some data =>
    rw [step_inDone given]
    cases inv with
    | idle _ _ inn => cases inn.symm.trans given
    | writing _ _ _ _ inn => cases inn.symm.trans given
    | reading stage reads data out =>
      obtain ⟨lun, blocks⟩ := range.moving (.inr ⟨stage, by rw [given]; exact Option.some_ne_none _⟩)
      obtain ⟨read, failed⟩ : (MscDev.afterRead st { d with inn := none }).InRange N B ∧
          ∀ e ∈ (MscDev.readFailed st { d with inn := none }).log, InDisk N B e :=
        InRange.afterRead range.size range.nbr range.log stage lun blocks
      rw [bulkIn_dataIn (d := { d with inn := none }) stage reads]
      by_cases answer : (({ d with inn := none } : MscDev σ).readAnswer st).2.2 = 0
      · rw [processRead_ok answer, if_pos rfl]
        exact read
      · rw [processRead_fail answer, if_neg Bool.false_ne_true]
        exact .sendCsw (d := MscDev.readFailed st { d with inn := none }) range.size range.nbr failed _
    | stuck _ _ inn => cases inn.symm.trans given
    | sending stage =>
      rw [bulkIn_sendCsw (d := { d with inn := none }) stage]
      exact .sendCsw (d := { d with inn := none }) range.size range.nbr range.log _
    | waiting stage =>
      rw [bulkIn_waitCsw (d := { d with inn := none }) stage]
      refine .quiet range.size range.nbr range.log ?_ ?_
      · intro eq
        cases eq
      · intro eq
        cases eq

/-- Every event that comes at an orderly time stays in range. -/
lemma InRange.step (range : d.InRange N B) (inv : d.Inv) {ev : BusEvent} (orderly : d.Orderly ev)
    (wrap : d.NoWrap ev) : (d.step st ev).InRange N B := by
  cases ev with
  | outDone data => exact range.outDone inv data wrap
  | inDone => exact range.inDone inv
  | massReset => exact .quiet range.size range.nbr (inDisk_snoc range.log .reset trivial) nofun nofun
  | busReset => exact .quiet range.size range.nbr (inDisk_snoc range.log .reset trivial) nofun nofun
  | configured =>
    obtain ⟨inn, stage⟩ := orderly (.inr rfl)
    refine ⟨range.size, range.nbr, range.log, ?_, fun _ writing => absurd writing stage⟩
    rintro (writing | ⟨_, reading⟩)
    · exact absurd writing stage
    · exact absurd inn reading

end MscDev

end WlhHpm.Usb
