import WlhHpm.Lib.Word

/-!
# The SFUD port

Model of `spi_write_read` of `bootloader/port/sfud/sfud_port.c`, by which SFUD talks to the external
flash, and of what it uses of `spi_transfer` of the SDK (`drivers/src/hpm_spi_drv.c`).

SFUD hands over a stream of bytes, `write_buf`, to be clocked out as it is. The port takes it apart
again by its length alone: one byte of command, three or four bytes of address, and what comes after
that. The controller then clocks out the three phases. `Spi.wire` records what it has clocked out.

Left out are the chip select, which is held for the whole call, and what the port never sets: DMA, the
token phase and the formats other than single IO. The data functions of the SDK refuse an empty buffer,
which the port never hands to them.
-/

namespace WlhHpm.Sfud

inductive SfudErr where
  | success
  | write
  | read
  deriving DecidableEq, Repr

/-- The modes of `spi_trans_mode_t` that the port uses. -/
inductive TransMode where
  | writeOnly
  | readOnly
  | noData
  | dummyRead
  deriving DecidableEq, Repr

/-- C `spi_control_config_t`. -/
structure ControlConfig where
  cmdEnable : Bool
  addrEnable : Bool
  transMode : TransMode
  dummyCnt : UInt8

/-- C `spi_master_get_default_control_config`. -/
def spiMasterGetDefaultControlConfig : ControlConfig := ⟨false, false, .writeOnly, 1⟩

def spiSocTransferCountMax : Nat := 512

/-- The controller: the length of its address phase in bytes, what it has clocked out, and how many
    transfers it has made. -/
structure Spi where
  addrLen : Nat
  wire : List UInt8
  transfers : Nat

/-- What lies outside the port: whether the `n`-th transfer finds the bus idle and does not time out
    (`none`; else the bytes it clocks out nevertheless), and what the flash answers to a transfer with
    this configuration, command and address. -/
structure Env where
  status : Nat → Option (List UInt8)
  reply : ControlConfig → UInt8 → UInt32 → Mem

/-- The address phase: the low bytes of the address, most significant first. -/
def addressBytes (len : Nat) (addr : UInt32) : List UInt8 := (Word.be32Bytes addr).drop (4 - len)

/-- What the controller clocks out for a transfer. -/
def phases (spi : Spi) (config : ControlConfig) (cmd : UInt8) (addr : UInt32) (wbuff : List UInt8) :
    List UInt8 :=
  (if config.cmdEnable then [cmd] else []) ++
    ((if config.addrEnable then addressBytes spi.addrLen addr else []) ++ wbuff)

/-- C `spi_transfer`; the bytes read, or `none` for any status but success. `spi_control_init` refuses
    counts above the limit. -/
def spiTransfer (env : Env) (spi : Spi) (config : ControlConfig) (cmd : UInt8) (addr : UInt32)
    (wbuff : List UInt8) (rcount : Nat) : Spi × Option (List UInt8) :=
  if wbuff.length > spiSocTransferCountMax ∨ rcount > spiSocTransferCountMax then (spi, none)
  else
    match env.status spi.transfers with
    | none =>
      ({ spi with
          wire := spi.wire ++ phases spi config cmd addr wbuff
          transfers := spi.transfers + 1 },
        some ((env.reply config cmd addr).toList rcount))
    | some clocked =>
      ({ spi with wire := spi.wire ++ clocked, transfers := spi.transfers + 1 }, none)

/-- Length of an address; `addrIn4Byte` is `s_flash != NULL && s_flash->addr_in_4_byte`. -/
def addrLen (addrIn4Byte : Bool) : Nat := if addrIn4Byte then 4 else 3

/-- The loop of `config_cmd_addr_format` over the bytes of the address. -/
def addressOf (bytes : List UInt8) : UInt32 :=
  bytes.foldl (fun addr byte => addr <<< 8 ||| byte.toUInt32) 0

/-- C `config_cmd_addr_format`: the command and the address are taken out of the stream. -/
def configCmdAddrFormat (addrIn4Byte : Bool) (spi : Spi) (config : ControlConfig)
    (writeBuf : List UInt8) : Spi × ControlConfig × UInt8 × UInt32 :=
  let cmd := writeBuf.getD 0 0
  let config := { config with cmdEnable := true }
  let len := addrLen addrIn4Byte
  if writeBuf.length ≥ 1 + len then
    ({ spi with addrLen := len }, { config with addrEnable := true }, cmd,
      addressOf ((writeBuf.drop 1).take len))
  else (spi, { config with addrEnable := false }, cmd, 0)

/-- The data phase of a read, after `dummy` bytes. -/
def readConfig (config : ControlConfig) (dummy : Nat) : ControlConfig :=
  if dummy > 0 then { config with dummyCnt := UInt8.ofNat (dummy - 1), transMode := .dummyRead }
  else { config with transMode := .readOnly }

/-- The loop of the read branch; it returns what has been stored through `dst` too. The source advances
    `addr` at the end of a pass, and `config_cmd_addr_format` computes it anew at the start of the
    next. -/
def readLoop (env : Env) (addrIn4Byte : Bool) (writeBuf : List UInt8) (dummy : Nat) :
    Nat → UInt32 → Spi → List UInt8 → Spi × List UInt8 × SfudErr
  | 0, _, spi, dst => (spi, dst, .success)
  | fuel + 1, remaining, spi, dst =>
    if remaining > 0 then
      let chunk := if remaining < 512 then remaining else 512
      let c := configCmdAddrFormat addrIn4Byte spi spiMasterGetDefaultControlConfig writeBuf
      match spiTransfer env c.1 (readConfig c.2.1 dummy) c.2.2.1 c.2.2.2 [] chunk.toNat with
      | (spi, none) => (spi, dst, .read)
      | (spi, some data) =>
        readLoop env addrIn4Byte writeBuf dummy fuel (remaining - chunk) spi (dst ++ data)
    else (spi, dst, .success)

/-- C `spi_write_read`: the controller, what is in `read_buf`, and the result. -/
def spiWriteRead (env : Env) (addrIn4Byte : Bool) (writeBuf : List UInt8) (readSize : UInt32)
    (spi : Spi) : Spi × List UInt8 × SfudErr :=
  let len := addrLen addrIn4Byte
  if readSize > 0 then
    let dummy := if writeBuf.length ≥ 1 + len then writeBuf.length - 1 - len else 0
    readLoop env addrIn4Byte writeBuf dummy readSize.toNat readSize spi []
  else
    let c := configCmdAddrFormat addrIn4Byte spi spiMasterGetDefaultControlConfig writeBuf
    let r :=
      if writeBuf.length > 1 + len then
        spiTransfer env c.1 { c.2.1 with transMode := .writeOnly } c.2.2.1 c.2.2.2
          (writeBuf.drop (1 + len)) 0
      else spiTransfer env c.1 { c.2.1 with transMode := .noData } c.2.2.1 c.2.2.2 [] 0
    (r.1, [], if r.2 = none then .write else .success)

/-! ## Addresses -/

/-- One more byte of the address, which is 32 bits wide. -/
lemma toNat_shift_or (addr : UInt32) (byte : UInt8) :
    (addr <<< 8 ||| byte.toUInt32).toNat = addr.toNat * 256 % 2 ^ 32 + byte.toNat := by
  have lt : byte.toNat < 2 ^ 8 := byte.toNat_lt
  have eight : addr.toNat <<< ((8 : UInt32).toNat % 32) % 2 ^ 32 = (addr.toNat % 2 ^ 24) <<< 8 := by
    rw [show (8 : UInt32).toNat % 32 = 8 from rfl, Nat.shiftLeft_eq, Nat.shiftLeft_eq]
    omega
  rw [UInt32.toNat_or, UInt32.toNat_shiftLeft, UInt8.toNat_toUInt32, eight,
    ← Nat.shiftLeft_add_eq_or_of_lt lt, Nat.shiftLeft_eq]
  omega

/-- The address phase clocks out the bytes that the address was computed from. -/
lemma addressBytes_addressOf {addrIn4Byte : Bool} {bytes : List UInt8}
    (len : bytes.length = addrLen addrIn4Byte) :
    addressBytes (addrLen addrIn4Byte) (addressOf bytes) = bytes := by
  cases addrIn4Byte with
  | true =>
    obtain ⟨b₀, b₁, b₂, b₃, rfl⟩ := List.length_eq_four.mp len
    rw [addressBytes, @Word.be32Bytes_eq _ b₀ b₁ b₂ b₃]
    · rfl
    · have lt₀ := b₀.toNat_lt
      have lt₁ := b₁.toNat_lt
      have lt₂ := b₂.toNat_lt
      simp only [addressOf, List.foldl_cons, List.foldl_nil, toNat_shift_or, UInt32.toNat_zero]
      omega
  | false =>
    obtain ⟨b₁, b₂, b₃, rfl⟩ := List.length_eq_three.mp len
    rw [addressBytes, @Word.be32Bytes_eq _ 0 b₁ b₂ b₃]
    · rfl
    · have lt₁ := b₁.toNat_lt
      have lt₂ := b₂.toNat_lt
      simp only [addressOf, List.foldl_cons, List.foldl_nil, toNat_shift_or, UInt32.toNat_zero,
        UInt8.toNat_zero]
      omega

/-- A stream of a command, an address and more. -/
lemma config_stream (addrIn4Byte : Bool) (spi : Spi) (config : ControlConfig) (cmd : UInt8)
    {address : List UInt8} (len : address.length = addrLen addrIn4Byte) (more : List UInt8) :
    configCmdAddrFormat addrIn4Byte spi config (cmd :: (address ++ more)) =
      ({ spi with addrLen := addrLen addrIn4Byte },
        { config with cmdEnable := true, addrEnable := true }, cmd, addressOf address) := by
  have long : (cmd :: (address ++ more)).length ≥ 1 + addrLen addrIn4Byte := by
    rw [List.length_cons, List.length_append]
    omega
  have bytes : ((cmd :: (address ++ more)).drop 1).take (addrLen addrIn4Byte) = address :=
    List.take_left' len
  simp only [configCmdAddrFormat, if_pos long, bytes, List.getD_cons_zero]

/-! ## Reading -/

/-- The controller never fails. -/
def Env.Healthy (env : Env) : Prop := ∀ n, env.status n = none

/-- The flash holds `mem` and answers a transfer with the read command `cmd` and an address with its
    bytes from there on. -/
def Env.Reads (env : Env) (cmd : UInt8) (mem : Mem) : Prop :=
  ∀ config addr, config.cmdEnable = true → config.addrEnable = true →
    env.reply config cmd addr = mem.shift addr.toNat

/-- Bytes repeated every 512. -/
def repeating (mem : Mem) (a : Nat) : Mem := fun i => mem (a + i % 512)

/-- A chunk, and the chunks after it. -/
lemma repeating_chunk (mem : Mem) (a : Nat) {n : Nat} (k : Nat) (chunk : n = min (n + k) 512) :
    (mem.shift a).toList n ++ (repeating mem a).toList k = (repeating mem a).toList (n + k) := by
  have first : (mem.shift a).toList n = (repeating mem a).toList n := by
    refine List.map_congr_left fun i mem_i => ?_
    have lt := List.mem_range.mp mem_i
    rw [Mem.shift, repeating, Nat.mod_eq_of_lt (by omega)]
  have rest : (repeating mem a).toList k = (List.range k).map (fun i => repeating mem a (n + i)) := by
    refine List.map_congr_left fun i mem_i => ?_
    have lt := List.mem_range.mp mem_i
    rw [repeating, repeating]
    congr 2
    omega
  rw [first, rest, Mem.toList, Mem.toList, List.range_add, List.map_append, List.map_map]
  rfl

/-- The phases before the data are as they were. -/
lemma readConfig_enables (config : ControlConfig) (dummy : Nat) :
    (readConfig config dummy).cmdEnable = config.cmdEnable ∧
      (readConfig config dummy).addrEnable = config.addrEnable := by
  unfold readConfig
  split <;> exact ⟨rfl, rfl⟩

/-- A transfer of the read loop. -/
lemma spiTransfer_read {env : Env} {cmd : UInt8} {mem : Mem} (ok : env.Healthy) (reads : env.Reads cmd mem)
    (spi : Spi) {config : ControlConfig} (cmdOn : config.cmdEnable = true)
    (addrOn : config.addrEnable = true) (addr : UInt32) {rcount : Nat} (le : rcount ≤ 512) :
    ∃ spi', spiTransfer env spi config cmd addr [] rcount =
      (spi', some ((mem.shift addr.toNat).toList rcount)) := by
  have fits : ¬ (([] : List UInt8).length > spiSocTransferCountMax ∨ rcount > spiSocTransferCountMax) := by
    simp only [List.length_nil, spiSocTransferCountMax]
    omega
  rw [spiTransfer, if_neg fits, ok, reads config addr cmdOn addrOn]
  exact ⟨_, rfl⟩

/-- The loop stores the first 512 bytes over and over. -/
lemma readLoop_data {env : Env} {cmd : UInt8} {mem : Mem} (ok : env.Healthy) (reads : env.Reads cmd mem)
    {addrIn4Byte : Bool} {address : List UInt8} (len : address.length = addrLen addrIn4Byte)
    (more : List UInt8) (dummy : Nat) {fuel : Nat} {remaining : UInt32} (spi : Spi) (dst : List UInt8)
    (enough : remaining.toNat ≤ fuel) :
    (readLoop env addrIn4Byte (cmd :: (address ++ more)) dummy fuel remaining spi dst).2 =
      (dst ++ (repeating mem (addressOf address).toNat).toList remaining.toNat, .success) := by
  induction fuel generalizing remaining spi dst with
  | zero =>
    rw [Nat.le_zero.mp enough, readLoop, Mem.toList, List.range_zero, List.map_nil, List.append_nil]
  | succ fuel ih =>
    rw [readLoop]
    split
    · rename_i some
      rw [gt_iff_lt, UInt32.lt_iff_toNat_lt, UInt32.toNat_zero] at some
      have size : (if remaining < 512 then remaining else (512 : UInt32)).toNat =
          min remaining.toNat 512 := Word.toNat_ite_lt remaining 512
      generalize (if remaining < 512 then remaining else (512 : UInt32)) = chunk at size ⊢
      have rest : (remaining - chunk).toNat = remaining.toNat - chunk.toNat :=
        UInt32.toNat_sub_of_le _ _ (UInt32.le_iff_toNat_le.mpr (by omega))
      simp only [config_stream _ _ _ _ len]
      obtain ⟨cmdOn, addrOn⟩ := readConfig_enables
        { spiMasterGetDefaultControlConfig with cmdEnable := true, addrEnable := true } dummy
      obtain ⟨spi', transfer⟩ := spiTransfer_read ok reads { spi with addrLen := addrLen addrIn4Byte }
        cmdOn addrOn (addressOf address) (show chunk.toNat ≤ 512 by omega)
      rw [transfer]
      simp only
      rw [ih spi' _ (by omega), rest, List.append_assoc, repeating_chunk _ _ _ (by omega)]
      congr 3
      omega
    · rename_i none
      rw [gt_iff_lt, UInt32.lt_iff_toNat_lt, UInt32.toNat_zero, not_lt, Nat.le_zero] at none
      rw [none, Mem.toList, List.range_zero, List.map_nil, List.append_nil]

/-- What a read stores. -/
lemma spiWriteRead_read {env : Env} {cmd : UInt8} {mem : Mem} (ok : env.Healthy)
    (reads : env.Reads cmd mem) {addrIn4Byte : Bool} {address : List UInt8}
    (len : address.length = addrLen addrIn4Byte) (dummies : List UInt8) {n : UInt32}
    (pos : 0 < n.toNat) (spi : Spi) :
    (spiWriteRead env addrIn4Byte (cmd :: (address ++ dummies)) n spi).2 =
      ((repeating mem (addressOf address).toNat).toList n.toNat, .success) := by
  have some : n > 0 := UInt32.lt_iff_toNat_lt.mpr pos
  rw [spiWriteRead, if_pos some, readLoop_data ok reads len _ _ _ _ le_rfl, List.nil_append]

/-- A read of `n` bytes from the address on fills the buffer with them exactly if they fit into one
    transfer or repeat every 512 bytes. -/
theorem read_correct_iff (env : Env) (ok : env.Healthy) (cmd : UInt8) (mem : Mem)
    (reads : env.Reads cmd mem) (addrIn4Byte : Bool) (address : List UInt8)
    (len : address.length = addrLen addrIn4Byte) (dummies : List UInt8) (n : UInt32)
    (pos : 0 < n.toNat) (spi : Spi) :
    (spiWriteRead env addrIn4Byte (cmd :: (address ++ dummies)) n spi).2 =
        ((mem.shift (addressOf address).toNat).toList n.toNat, .success) ↔
      n.toNat ≤ 512 ∨ ∀ i < n.toNat, mem ((addressOf address).toNat + i % 512) =
        mem ((addressOf address).toNat + i) := by
  rw [spiWriteRead_read ok reads len dummies pos spi, Prod.mk.injEq]
  simp only [and_true, Mem.toList, List.map_inj_left, List.mem_range]
  constructor
  · exact .inr
  · rintro (short | same) i lt
    · rw [repeating, Nat.mod_eq_of_lt (by omega)]
      rfl
    · exact same i lt

/-- A flash of zeros but for byte 512. -/
def sampleFlash : Mem := fun i => if i = 512 then 1 else 0

/-- The flash answers every command with its contents. -/
def Env.sample : Env where
  status := fun _ => none
  reply := fun _ _ addr => sampleFlash.shift addr.toNat

/-- A whole transfer from address 1 on, after one dummy byte. -/
theorem read_correct_transfer :
    (spiWriteRead .sample false (0x0b :: ([0, 0, 1] ++ [0])) 512 ⟨3, [], 0⟩).2 =
      ((sampleFlash.shift (addressOf [0, 0, 1]).toNat).toList (512 : UInt32).toNat, .success) :=
  (read_correct_iff .sample (fun _ => rfl) 0x0b sampleFlash (fun _ _ _ _ => rfl) false [0, 0, 1] rfl
    [0] 512 (by decide) ⟨3, [], 0⟩).mpr (.inl (by decide))

/-- One byte more than a transfer: byte 0 of the flash is stored in place of byte 512. -/
theorem read_past_transfer :
    (spiWriteRead .sample false (0x03 :: ([0, 0, 0] ++ [])) 513 ⟨3, [], 0⟩).2 ≠
      ((sampleFlash.shift (addressOf [0, 0, 0]).toNat).toList (513 : UInt32).toNat, .success) := by
  have stored := @spiWriteRead_read .sample 0x03 sampleFlash (fun _ => rfl) (fun _ _ _ _ => rfl) false
    [0, 0, 0] rfl [] 513 (by decide) ⟨3, [], 0⟩
  rw [stored, ne_eq, Prod.mk.injEq]
  rintro ⟨same, -⟩
  simp only [Mem.toList, List.map_inj_left, List.mem_range] at same
  exact absurd (same 512 (by decide)) (by decide)

/-! ## Writing -/

/-- What a transfer without a failure clocks out. -/
lemma spiTransfer_wire {env : Env} (ok : env.Healthy) (spi : Spi) (config : ControlConfig) (cmd : UInt8)
    (addr : UInt32) (wbuff : List UInt8) :
    (spiTransfer env spi config cmd addr wbuff 0).1.wire =
      if wbuff.length ≤ 512 then spi.wire ++ phases spi config cmd addr wbuff else spi.wire := by
  unfold spiTransfer
  by_cases fits : wbuff.length ≤ 512
  · have accepted : ¬ (wbuff.length > spiSocTransferCountMax ∨ 0 > spiSocTransferCountMax) := by
      simp only [spiSocTransferCountMax]
      omega
    rw [if_neg accepted, if_pos fits, ok]
  · have refused : wbuff.length > spiSocTransferCountMax ∨ 0 > spiSocTransferCountMax :=
      .inl (not_le.mp fits)
    rw [if_pos refused, if_neg fits]

/-- A stream with an address is clocked out as it is, if its data fit into one transfer. -/
lemma write_stream {env : Env} (ok : env.Healthy) {addrIn4Byte : Bool} (cmd : UInt8)
    {address : List UInt8} (len : address.length = addrLen addrIn4Byte) (data : List UInt8) (spi : Spi) :
    (spiWriteRead env addrIn4Byte (cmd :: (address ++ data)) 0 spi).1.wire =
      if data.length ≤ 512 then spi.wire ++ cmd :: (address ++ data) else spi.wire := by
  have size : (cmd :: (address ++ data)).length = 1 + addrLen addrIn4Byte + data.length := by
    rw [List.length_cons, List.length_append, len]
    omega
  have rest : (cmd :: (address ++ data)).drop (1 + addrLen addrIn4Byte) = data := by
    rw [Nat.add_comm, List.drop_succ_cons, List.drop_left' len]
  rw [spiWriteRead, if_neg (by decide)]
  simp only [config_stream _ _ _ _ len, size, rest]
  split
  · rw [spiTransfer_wire ok]
    simp only [phases, if_true, addressBytes_addressOf len, List.cons_append, List.nil_append]
  · have empty : data = [] := List.length_eq_zero_iff.mp (by omega)
    rw [spiTransfer_wire ok, empty]
    simp only [phases, if_true, addressBytes_addressOf len, List.cons_append, List.nil_append]

/-- Of a stream without a whole address only the command is clocked out. -/
lemma write_short {env : Env} (ok : env.Healthy) {addrIn4Byte : Bool} (cmd : UInt8) {more : List UInt8}
    (short : more.length < addrLen addrIn4Byte) (spi : Spi) :
    (spiWriteRead env addrIn4Byte (cmd :: more) 0 spi).1.wire = spi.wire ++ [cmd] := by
  have size : (cmd :: more).length < 1 + addrLen addrIn4Byte := by
    rw [List.length_cons]
    omega
  rw [spiWriteRead, if_neg (by decide)]
  simp only [configCmdAddrFormat, if_neg (not_le.mpr size), if_neg size.not_gt, List.getD_cons_zero]
  rw [spiTransfer_wire ok]
  rfl

/-- A stream is clocked out as it is exactly if it is a command alone, or has a whole address and no
    more data than one transfer takes. -/
theorem write_stream_iff (env : Env) (ok : env.Healthy) (addrIn4Byte : Bool) (writeBuf : List UInt8)
    (some : 1 ≤ writeBuf.length) (spi : Spi) :
    (spiWriteRead env addrIn4Byte writeBuf 0 spi).1.wire = spi.wire ++ writeBuf ↔
      writeBuf.length = 1 ∨ 1 + addrLen addrIn4Byte ≤ writeBuf.length ∧
        writeBuf.length ≤ 1 + addrLen addrIn4Byte + 512 := by
  obtain ⟨cmd, rest, rfl⟩ := List.exists_cons_of_length_pos some
  have pos : 0 < addrLen addrIn4Byte := by
    unfold addrLen
    split <;> decide
  by_cases whole : addrLen addrIn4Byte ≤ rest.length
  · obtain ⟨address, data, len, rfl⟩ : ∃ address data : List UInt8,
        address.length = addrLen addrIn4Byte ∧ address ++ data = rest :=
      ⟨rest.take _, rest.drop _, List.length_take_of_le whole, List.take_append_drop _ _⟩
    rw [write_stream ok cmd len data spi, List.length_cons, List.length_append, len]
    split
    · exact iff_of_true rfl (.inr ⟨by omega, by omega⟩)
    · refine iff_of_false ?_ (by omega)
      simp
  · rw [write_short ok cmd (not_le.mp whole) spi, List.length_cons, List.append_cancel_left_eq,
      List.cons_eq_cons]
    cases rest with
    | nil => simp
    | cons byte rest =>
      rw [List.length_cons] at whole ⊢
      refine iff_of_false (by simp) (by omega)

/-- A page program command with four bytes of address and two of data. -/
theorem write_stream_page :
    (spiWriteRead .sample true [0x02, 0, 1, 2, 3, 0xaa, 0xbb] 0 ⟨3, [], 0⟩).1.wire =
      [] ++ [0x02, 0, 1, 2, 3, 0xaa, 0xbb] :=
  (write_stream_iff .sample (fun _ => rfl) true _ (by decide) ⟨3, [], 0⟩).mpr
    (.inr ⟨by decide, by decide⟩)

/-- The data of a write status register command is not clocked out. -/
theorem write_status_dropped :
    (spiWriteRead .sample false [0x01, 0x40] 0 ⟨3, [], 0⟩).1.wire = [0x01] ∧
      (spiWriteRead .sample false [0x01, 0x40] 0 ⟨3, [], 0⟩).1.wire ≠ [] ++ [0x01, 0x40] ∧
      (spiWriteRead .sample false [0x01, 0x40] 0 ⟨3, [], 0⟩).2.2 = .success := by
  decide

end WlhHpm.Sfud
